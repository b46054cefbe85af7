import HttpKit.Json.Octets
import HttpKit.Json.Printer
import HttpKit.Response

/-!
# Building responses

A builder collects status, headers and body; of each the last one given counts. A step that fails
yields no builder, so the one before it stands.
-/

namespace HttpKit

/-- Why a step of a builder fails. -/
inductive BuildError where
  /-- A datum where a text was expected. -/
  | notText (value : Json)
  | octets (e : Json.OctetsError)
  | json (e : Json.PrintError)

/-- A response in the making. Headers are in the order in which they were given. -/
structure ResponseBuilder where
  status : Int
  headers : List (RawText × RawText)
  body : Bytes

namespace ResponseBuilder

/-- A builder to which nothing was given. -/
def new : ResponseBuilder := ⟨200, [], []⟩

/-- Sets the status. -/
def withStatus (b : ResponseBuilder) (status : Int) : ResponseBuilder := { b with status }

/-- Adds a header. -/
def withHeader (b : ResponseBuilder) (name value : RawText) : ResponseBuilder :=
  { b with headers := b.headers ++ [(name, value)] }

/-- Adds headers. -/
def withHeaders (b : ResponseBuilder) (pairs : List (RawText × RawText)) : ResponseBuilder :=
  { b with headers := b.headers ++ pairs }

/-- Sets the body to the bytes of a datum. -/
def withBody (b : ResponseBuilder) (room : Nat) (body : Json) :
    Except BuildError ResponseBuilder :=
  match body.octets room with
  | .ok bytes => .ok { b with body := bytes }
  | .error e => .error (.octets e)

/-- Sets the body to a text and adds its content type. -/
def withText (b : ResponseBuilder) (text : Json) (contentType : RawText) :
    Except BuildError ResponseBuilder :=
  match text with
  | .text s => .ok ({ b with body := utf8 s }.withHeader "Content-Type" contentType)
  | value => .error (.notText value)

/-- Sets the body to compact JSON and adds its content type. -/
def withJson (b : ResponseBuilder) (data : Json) : Except BuildError ResponseBuilder :=
  match data.render .compact with
  | .ok s => .ok ({ b with body := utf8 s }.withHeader "Content-Type" "application/json")
  | .error e => .error (.json e)

/-- Sets the body: JSON for lists and objects, bytes for other data. -/
def withPayload (b : ResponseBuilder) (room : Nat) (payload : Json) :
    Except BuildError ResponseBuilder :=
  match payload with
  | .list _ | .object _ => b.withJson payload
  | _ => b.withBody room payload

/-- The response. -/
def build (b : ResponseBuilder) : Response :=
  .of b.status (.ofList b.headers) b.body

end ResponseBuilder

namespace Response

/-- 200 with a payload. -/
def ok (room : Nat) (payload : Json) : Except BuildError Response := do
  return (← ResponseBuilder.new.withPayload room payload).build

/-- 201 with a payload and the place of what was created, unless it is empty. -/
def created (room : Nat) (payload : Json) (location : Option RawText) :
    Except BuildError Response := do
  let b ← (ResponseBuilder.new.withStatus 201).withPayload room payload
  match location.filter (!·.isEmpty) with
  | none => return b.build
  | some place => return (b.withHeader "Location" place).build

/-- 204 without a body. -/
def noContent : Response := .of 204 .empty []

/-- 404 with a message. -/
def notFound (message : String) : Response := .text 404 message

/-- 405 with a message. -/
def methodNotAllowed (message : String) : Response := .text 405 message

/-- 500 with a message. -/
def internalError (message : String) : Response := .text 500 message

end Response

end HttpKit
