import HttpKit.Bytes.Latin1
import HttpKit.Numeral.Whole
import HttpKit.Request
import HttpKit.Text.Casing
import HttpKit.Wire.Source

/-!
# Requests in a gateway's variables

A gateway hands a request over as named texts and a body to read from. Bytes of a path come as
characters, one for every byte.
-/

namespace HttpKit.Gateway

/-- The variables of a gateway in order, no name twice. -/
abbrev Environ := List (String × String)

/-- Why no request is made of the variables. -/
inductive EnvironError where
  /-- The path holds a character that is no byte. -/
  | pathNotBytes
  | port (e : NumeralError)
  | body (fault : ReadFault)

namespace Environ

/-- The value of a variable, unless it is empty. -/
def nonempty? (env : Environ) (name : String) : Option String :=
  (Assoc.get? name env).filter (· ≠ "")

/-- The target: the path in UTF-8 and the query, if there is one. -/
def target (env : Environ) : Except EnvironError String :=
  match Latin1.encode? ((env.nonempty? "PATH_INFO").getD "/") with
  | none => .error .pathNotBytes
  | some bytes =>
    let path := ofUtf8 bytes
    match env.nonempty? "QUERY_STRING" with
    | some query => .ok (path ++ "?" ++ query)
    | none => .ok path

/-- The peer's host and port. Without a host there is no peer. -/
def client (env : Environ) : Except EnvironError (Option Address) :=
  match env.nonempty? "REMOTE_ADDR" with
  | none => .ok none
  | some host =>
    match Numeral.whole ((env.nonempty? "REMOTE_PORT").getD "0") with
    | .ok port => .ok (some [.text host, .int port])
    | .error e => .error (.port e)

/-- A header name of a variable name: every word in title case, hyphens between them. -/
def headerName (name : List Char) : String :=
  Text.title (String.ofList (name.map fun c => if c = '_' then '-' else c))

/-- The header that a variable holds. Of the two variables without the mark of a header, an empty
one is none. -/
def header? (entry : String × String) : Option (String × String) :=
  let (name, value) := entry
  if "HTTP_".toList.isPrefixOf name.toList then some (headerName (name.toList.drop 5), value)
  else if (name = "CONTENT_TYPE" ∨ name = "CONTENT_LENGTH") ∧ value ≠ "" then
    some (headerName name.toList, value)
  else none

/-- The headers in the order of their variables. -/
def headers (env : Environ) : Headers := .ofList (env.filterMap header?)

/-- The length of the body. What is no number, or none above zero, is zero. -/
def bodyLength (env : Environ) : Nat :=
  match Numeral.whole ((env.nonempty? "CONTENT_LENGTH").getD "0") with
  | .ok length => length.toNat
  | .error _ => 0

/-- The body, one read from what the gateway offers. -/
def body (env : Environ) (input : Option Memory) : Except EnvironError Bytes :=
  match input with
  | none => .ok []
  | some memory =>
    if env.bodyLength = 0 then .ok []
    else
      match (memory.read env.bodyLength).1 with
      | .data bytes => .ok bytes
      | .timedOut => .ok []
      | .failed fault => .error (.body fault)

/-- The request that the variables hold. -/
def request (env : Environ) (input : Option Memory) (method : Method) :
    Except EnvironError Request := do
  let target ← env.target
  let client ← env.client
  let body ← env.body input
  return {
    method, target, version := (Assoc.get? "SERVER_PROTOCOL" env).getD Request.defaultVersion
    headers := env.headers, body, captures := [], client }

end Environ

end HttpKit.Gateway
