import HttpKit.Gateway.Environ
import HttpKit.Handler
import HttpKit.Response.Builder

/-!
# Handlers behind a gateway

A gateway owns the connection: it is told a status, headers and the body. Headers that concern the
connection are left to it.
-/

namespace HttpKit.Gateway

/-- The headers that concern a connection and not a message. -/
def hopByHop : List RawText :=
  ["Connection", "Keep-Alive", "Proxy-Authenticate", "Proxy-Authorization", "TE", "Trailers",
   "Transfer-Encoding", "Upgrade"]

/-- What a gateway is told. -/
structure Answer where
  /-- The code and the reason phrase. -/
  status : RawText
  headers : List (RawText × RawText)
  body : Bytes
  deriving DecidableEq

/-- Why a gateway is told nothing. -/
inductive Refusal where
  | environ (e : EnvironError)
  /-- The handler's reply is no response. -/
  | reply (fault : Fault)

/-- What a gateway is told of a response. The status is a code from 100 to 999; others are written
as they are, however many digits they have. -/
def Answer.of (r : Response) : Answer where
  status := s!"{r.status} " ++ r.reason
  headers := (r.effectiveHeaders.without hopByHop).toList
  body := r.body

/-- The answer to a method that is none. -/
def unknownMethod : Answer := .of (.methodNotAllowed "Method Not Allowed")

variable {ω : Type}

/-- Serves the request that the variables hold. -/
def serve (h : Handler ω) (env : Environ) (input : Option Memory) :
    StateM (Journal ω) (Except Refusal Answer) := do
  match (Assoc.get? "REQUEST_METHOD" env).bind Method.ofToken? with
  | none => return .ok unknownMethod
  | some method =>
    match env.request input method with
    | .error e => return .error (.environ e)
    | .ok request =>
      match (← h.invoke request).demand "effective_headers" with
      | .ok r => return .ok (.of r)
      | .error fault => return .error (.reply fault)

/-- How a gateway with a state of its own starts a response, of which it is told status and
headers. -/
abbrev Start (γ : Type) := RawText → List (RawText × RawText) → StateM γ Unit

/-- Serves the request that the variables hold: the gateway is made to start the response and is
handed the parts of the body. -/
def exchange {γ : Type} (start : Start γ) (h : Handler ω) (env : Environ) (input : Option Memory) :
    StateT γ (StateM (Journal ω)) (Except Refusal (List Bytes)) := do
  match ← serve h env input with
  | .error e => return .error e
  | .ok answer =>
    modifyGet (start answer.status answer.headers).run
    return .ok [answer.body]

end HttpKit.Gateway
