import HttpKit.Log
import HttpKit.Server.LifeCycle

/-!
# Running in the foreground

A server that runs in the foreground says what it does, serves until it is told to end, and stops.
-/

namespace HttpKit

/-- Who writes to the server's log. -/
inductive Speaker where
  | server
  | router
  deriving DecidableEq, Repr

/-- The speaker's name in the log. -/
def Speaker.name : Speaker → String
  | server => "minihttp.server"
  | router => "minihttp.http.router"

/-- A line of the server's log. -/
structure ServerLine where
  speaker : Speaker
  entry : LogEntry

/-- How a server in the foreground is told to end. -/
inductive Ending where
  /-- It is stopped from elsewhere. -/
  | stop
  /-- It gets a signal of this name. -/
  | signal (name : String)
  /-- Its wait is interrupted from the keyboard. -/
  | keyboard
  deriving DecidableEq, Repr

/-- What is said about the end. -/
def Ending.lines : Ending → List LogEntry
  | stop => []
  | signal name => [⟨Level.info, s!"Received {name}, shutting down"⟩]
  | keyboard => [⟨Level.info, "Received keyboard interrupt"⟩]

/-- The trouble of a level that is none. -/
def Trouble.ofLevel : LevelError → Trouble
  | .blank => .other "AttributeError" LevelError.blank.message
  | .name .format => .other "ValueError" Level.NotLevel.format.message
  | .name .styles => .other "TypeError" Level.NotLevel.styles.message

/-- The trouble of a route that is too deep to be listed. -/
def TooDeep.toTrouble : TooDeep → Trouble
  | ⟨⟩ => .other "RecursionError" "maximum recursion depth exceeded"

/-- What a run in the foreground comes to. -/
structure RunReport where
  result : Except Trouble Unit
  /-- What came of those who came. -/
  visits : List Visit
  lines : List ServerLine

namespace Server

variable {ω : Type}

/-- Accepts peers one after the other and works on their connections. -/
def visitAll (s : Server ω) : List Peer → StateM (Journal ω) (List Visit × Server ω)
  | [] => return ([], s)
  | p :: rest => do
    let (visit, s) ← s.visit p
    let (visits, s) ← s.visitAll rest
    return (visit :: visits, s)

/-- The server's own routes, if it answers with them. -/
def ownRoutes? (s : Server ω) : Option (Router ω) :=
  match s.handler with
  | none => s.router
  | some _ => none

/-- The lines that list the server's own routes, if it answers with them, and whether they could
all be listed. -/
def listOwnRoutes (s : Server ω) (depth : Nat) : List ServerLine × Except TooDeep Unit :=
  match s.ownRoutes? with
  | some router =>
    let (lines, outcome) := router.listing depth
    (lines.map fun line => ⟨.router, ⟨Level.debug, line⟩⟩, outcome)
  | none => ([], .ok ())

/-- The line that says where the server serves. -/
def servingLine (s : Server ω) : LogEntry :=
  let scheme := if s.encryption.isSome then "https" else "http"
  let host := s.settings.host.value?.getD "[]"
  ⟨Level.info, s!"Serving on {scheme}://{host}:{s.port} (Ctrl+C to stop)"⟩

/-- The line about connections that were shut. -/
def shutLines (s : Server ω) (count : Nat) : List LogEntry :=
  if count = 0 then []
  else
    [⟨Level.warning, s!"{count} connection(s) still open after "
      ++ s!"{Decimal.fixed 1 s.settings.shutdownTimeout}s, closing them"⟩]

/-- Runs the server in the foreground while peers come, until it is told to end. A level that is
none ends the run before it starts; a route that is too deep to be listed leaves the server
running. -/
def run (s : Server ω) (depth : Nat) (network : Network) (peers : List Peer) (ending : Ending) :
    StateM (Journal ω) (RunReport × Server ω) := do
  match s.settings.leastLevel with
  | .error e => return (⟨.error (.ofLevel e), [], []⟩, s)
  | .ok least =>
    let shown (lines : List ServerLine) := lines.filter fun line => least ≤ line.entry.level
    match s.start network with
    | (.error e, s) => return (⟨.error e.toTrouble, [], []⟩, s)
    | (.ok (), started) =>
      let (routeLines, listed) := started.listOwnRoutes depth
      if let .error e := listed then
        return (⟨.error e.toTrouble, [], shown routeLines⟩, started)
      let (visits, served) ← started.visitAll peers
      let (count, stopped) ← served.stop []
      let shut := match count with
        | .ok n => started.shutLines n
        | .error _ => []
      let spoken := (started.servingLine :: ending.lines) ++ shut
      let lines := routeLines ++ spoken.map (⟨.server, ·⟩)
      return (⟨count.map fun _ => (), visits, shown lines⟩, stopped)

end Server

end HttpKit
