import HttpKit.Text.Casing
import HttpKit.Text.Quoted

/-!
# Request methods
-/

namespace HttpKit

/-- The nine standard methods. -/
inductive Method where
  | get
  | head
  | post
  | put
  | delete
  | connect
  | options
  | trace
  | patch
  deriving DecidableEq, Repr

namespace Method

/-- Every method. -/
def all : List Method := [get, head, post, put, delete, connect, options, trace, patch]

/-- The method as it is written on the wire. -/
def name : Method → String
  | get => "GET"
  | head => "HEAD"
  | post => "POST"
  | put => "PUT"
  | delete => "DELETE"
  | connect => "CONNECT"
  | options => "OPTIONS"
  | trace => "TRACE"
  | patch => "PATCH"

/-- The method that a token names once it is in upper case. -/
def ofToken? (token : String) : Option Method :=
  let name := Text.upper token
  all.find? (·.name = name)

/-- A token that names no method, or no token at all. -/
structure Unknown where
  token : Option String
  deriving DecidableEq, Repr

/-- What is said about it. -/
def Unknown.message (e : Unknown) : String :=
  "Unknown HTTP method: " ++ (e.token.map Text.quoted).getD "None"

/-- The method that a token names, where one is required. -/
def ofToken (token : Option String) : Except Unknown Method :=
  match token.bind ofToken? with
  | some m => .ok m
  | none => .error ⟨token⟩

end Method

end HttpKit
