import HttpKit.Decimal.Fixed
import HttpKit.Json.Printer
import HttpKit.Middleware

/-!
# Access log

One line for every request: what was asked, who asked, what was answered and how long it took. The
middleware that writes the lines changes nothing else but the header that names the request.
-/

namespace HttpKit

/-- A datum that names no format. -/
structure UnknownFormat where
  value : Json

/-- What is said about it. -/
def UnknownFormat.message (e : UnknownFormat) : String :=
  "log_format must be 'text' or 'json', got " ++ e.value.display

/-- How a line is written. -/
inductive LineFormat where
  | text
  | json
  deriving DecidableEq, Repr

namespace LineFormat

/-- The format's name. -/
def name : LineFormat → String
  | text => "text"
  | json => "json"

/-- The format of a name. -/
def ofName? (name : String) : Option LineFormat :=
  match name with
  | "text" => some text
  | "json" => some json
  | _ => none

/-- The format that a datum names. -/
def ofDatum : Json → Except UnknownFormat LineFormat
  | .text name =>
    match ofName? name with
    | some format => .ok format
    | none => .error ⟨.text name⟩
  | value => .error ⟨value⟩

end LineFormat

/-- What the access log says about one request. -/
structure AccessRecord where
  requestId : String
  method : String
  target : String
  client : Json
  userAgent : String
  /-- A code from 100 to 999. Others are written as they are. -/
  status : Int
  contentLength : Int
  /-- Milliseconds. -/
  duration : Float
  timestamp : String

namespace AccessRecord

/-- The duration in milliseconds, two decimal places kept. -/
def roundedDuration (r : AccessRecord) : Float := Decimal.roundTo 2 r.duration

/-- The record as a line of plain text. -/
def toText (r : AccessRecord) : String :=
  let client := match r.client with
    | .text host => host
    | value => value.display
  s!"{client} - - [{r.timestamp}] \"{r.method} {r.target}\" {r.status} {r.contentLength} "
    ++ s!"{Decimal.fixed 2 r.duration}ms {r.requestId}"

/-- The record as a datum. -/
def toJson (r : AccessRecord) : Json :=
  .object [("request_id", .text r.requestId), ("method", .text r.method),
    ("target", .text r.target), ("client_ip", r.client),
    ("user_agent", .text r.userAgent), ("status_code", .int r.status),
    ("content_length", .int r.contentLength), ("duration_ms", .float r.roundedDuration),
    ("timestamp", .text r.timestamp)]

/-- The record as a line of JSON. -/
def toJsonLine (r : AccessRecord) : Except Json.PrintError String := r.toJson.render .spaced

/-- The record as a line. -/
def toLine (r : AccessRecord) : LineFormat → Except Json.PrintError String
  | .text => .ok r.toText
  | .json => r.toJsonLine

end AccessRecord

/-- How an access log is kept. It may be kept more than once around a handler; how deep calls can go
is left out, as it is for every chain. -/
structure AccessLog where
  format : LineFormat
  /-- Whether the response names the request. -/
  showsId : Bool
  level : Level
  /-- The paths whose requests are not logged. -/
  skipped : List String

namespace AccessLog

variable {ω : Type}

/-- The header that names a request. -/
def idHeader : String := "X-Request-ID"

/-- An access log of a format, kept as usual. -/
def standard (format : LineFormat) : AccessLog := ⟨format, true, Level.info, []⟩

/-- What stands for a value that is not known. -/
def unknown : String := "-"

/-- The record of a request and its reply. No reply counts as an empty 204. -/
def record (request : Request) (reply : Reply) (id : String) (duration : Float) (stamp : String) :
    Except Fault AccessRecord := do
  let (status, length) ← match reply with
    | .nothing => pure (204, 0)
    | reply => do
      let r ← reply.demand "status"
      pure (r.status, r.body.length)
  return {
    requestId := id, method := request.method.name, target := request.target
    client := (request.client.bind List.head?).getD (.text unknown)
    userAgent := match request.header "User-Agent" with
      | none | some "" => unknown
      | some agent => agent
    status, contentLength := length, duration, timestamp := stamp }

/-- The line about a request whose handler ended in a fault. -/
def failureLine (request : Request) (fault : Fault) (id : String) (duration : Float) : String :=
  s!"Request failed: {request.method.name} {request.target} - {fault.kind}: {fault.text} "
    ++ s!"({Decimal.fixed 2 duration}ms) {id}"

/-- Writes the line about a request that was answered. -/
def write (a : AccessLog) (request : Request) (reply : Reply) (id : String) (duration : Float) :
    Run ω Unit := do
  if a.skipped.contains request.path then return
  let stamp := (← get).clock.stamp
  let r ← Run.ofExcept (record request reply id duration stamp)
  match r.toLine a.format with
  | .ok line => Run.log a.level line
  | .error e => throw (.raised "TypeError" e.message)

/-- What comes after the rest of the way: a fault is logged as an error and passed on, and a reply
is logged and names the request. -/
def conclude (a : AccessLog) (request : Request) (id : String) (started : Float)
    (outcome : Except Fault Reply) : Run ω Reply := do
  let ended ← Run.tick
  let duration := (ended - started) * 1000
  match outcome with
  | .error fault =>
    Run.log Level.error (failureLine request fault id duration)
    throw fault
  | .ok reply =>
    a.write request reply id duration
    match reply with
    | .nothing => return .nothing
    | reply => if a.showsId then Run.ofExcept (reply.withHeader idHeader id) else return reply

/-- The middleware that keeps the log. -/
def middleware (a : AccessLog) : Middleware ω where
  name := "LoggingMiddleware"
  apply request next := do
    let id ← Run.nextId
    let started ← Run.tick
    let outcome ← Run.attempt (next request)
    a.conclude request id started outcome

end AccessLog

end HttpKit
