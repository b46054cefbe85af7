import HttpKit.Handler
import HttpKit.Response.Builder
import HttpKit.Route.Trie

/-!
# Routers

A route table has one tree per method and a handler for what no tree holds. Routes are registered
through views: a view of a table puts its prefix before every path, and its segments are literal.
Requests are matched by their whole path, whatever view they come through.
-/

namespace HttpKit

/-- Why a registration fails. -/
inductive RegistrationError where
  | notCallable (e : NotCallable)
  | unknownMethod (e : Method.Unknown)
  | blankVariable (e : BlankVariable)

/-- A template is too deep to be listed: the listing goes down one level per segment, and what
calls it leaves room for so many of them. -/
structure TooDeep where
  deriving DecidableEq, Repr

/-- The routes of every method, methods in the order in which they came up, and what answers when
none matches. -/
structure RouteTable (η : Type) where
  roots : List (Method × Route.Node η)
  notFound : η

/-- The segments before every path that is registered through the view. -/
abbrev View := List String

namespace View

/-- The view of a whole table. -/
def root : View := []

/-- The view at a path below another. A path without segments is the view itself. -/
def mount (v : View) (path : String) : View := v ++ Path.segments path

/-- The path before every path. -/
def path (v : View) : String := Path.ofSegments v

end View

namespace RouteTable

variable {η : Type}

/-- A table without routes. -/
def empty (notFound : η) : RouteTable η := ⟨[], notFound⟩

/-- The tree of a method. -/
def root? (t : RouteTable η) (method : Method) : Option (Route.Node η) :=
  (t.roots.find? (·.1 = method)).map Prod.snd

/-- Changes the tree of a method, an empty one at the end if there was none. -/
def updateRoot (method : Method) (f : Route.Node η → Route.Node η) :
    List (Method × Route.Node η) → List (Method × Route.Node η)
  | [] => [(method, f .empty)]
  | (m, node) :: rest =>
    if m = method then (m, f node) :: rest else (m, node) :: updateRoot method f rest

/-- Registers a handler for a method at tokens. -/
def insert (t : RouteTable η) (method : Method) (tokens : List Token) (handler : η) :
    RouteTable η :=
  { t with roots := updateRoot method (Route.Node.insert handler tokens) t.roots }

/-- The tokens of a template seen through a view. -/
def tokens (view : View) (path : String) : Except BlankVariable (List Token) := do
  return view.map .literal ++ (← (Path.segments path).mapM Token.ofSegment)

/-- Registers a candidate. Nothing is registered unless all of it is valid; a datum for a handler
is reported first, a method that is none second. -/
def add (t : RouteTable η) (view : View) (method : Option String) (path : String)
    (handler : Candidate η) : Except RegistrationError (RouteTable η) := do
  let h ← (handler.require "Route handler").mapError .notCallable
  let m ← (Method.ofToken method).mapError .unknownMethod
  let ts ← (tokens view path).mapError .blankVariable
  return t.insert m ts h

/-- Replaces what answers when no route matches. -/
def setNotFound (t : RouteTable η) (handler : Candidate η) :
    Except RegistrationError (RouteTable η) := do
  let h ← (handler.require "Not-found handler").mapError .notCallable
  return { t with notFound := h }

/-- The route that a request takes. -/
def resolve (t : RouteTable η) (method : Method) (target : String) : Option (Route.Match η) := do
  let root ← t.root? method
  root.find? (Path.segments target)

/-- Every registered method and template with its handler. -/
def entries (t : RouteTable η) : List (Method × List Token × η) :=
  t.roots.flatMap fun (m, node) => node.list.map fun (ts, h) => (m, ts, h)

/-- Every registered method and template, variables under their present names. -/
def templates (t : RouteTable η) : List (Method × String) :=
  t.entries.map fun (m, ts, _) => (m, Path.ofSegments (ts.map Token.segment))

/-- Whether there is room for the segments of every template. -/
def isListable (t : RouteTable η) (depth : Nat) : Bool :=
  t.entries.all fun (_, ts, _) => ts.length ≤ depth

/-- Lists the routes, all of them or none. -/
def routes (t : RouteTable η) (depth : Nat) : Except TooDeep (List (Method × String)) :=
  if t.isListable depth then .ok t.templates else .error ⟨⟩

/-- The lines that list the routes, up to the first one that is too deep, and whether there was
one. -/
def listing (t : RouteTable η) (depth : Nat) : List String × Except TooDeep Unit :=
  let listed := t.entries.takeWhile fun (_, ts, _) => ts.length ≤ depth
  let lines := listed.map fun (m, ts, _) =>
    let padding := String.ofList (List.replicate (7 - m.name.length) ' ')
    s!"  {m.name}{padding} {Path.ofSegments (ts.map Token.segment)}"
  ("Routes:" :: lines, (t.routes depth).map fun _ => ())

end RouteTable

/-- A table of handlers. -/
abbrev Router (ω : Type) := RouteTable (Handler ω)

namespace Router

variable {ω : Type}

/-- A router without routes: every request is answered with 404. -/
def new : Router ω := .empty fun _ => return .response (.notFound "Not Found")

/-- Passes a request on to its route, with what was captured on the way. -/
def handle (r : Router ω) : Handler ω := fun request =>
  match r.resolve request.method request.target with
  | some route => route.entry (request.withCaptures route.captured)
  | none => r.notFound request

end Router

end HttpKit
