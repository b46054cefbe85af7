import HttpKit.Assoc
import HttpKit.Headers
import HttpKit.Method
import HttpKit.Numeral.Whole
import HttpKit.Query
import HttpKit.Text.Split

/-!
# Requests
-/

namespace HttpKit

/-- What a transport reports about the peer: its host first, then port and whatever else. -/
abbrev Address := List Json

/-- The values that a router captured, by the names of its variables. -/
abbrev Captures := List (String × String)

/-- The length that a header value declares: ASCII digits with an optional plus, and zero for
anything else. Too many digits are refused. -/
def declaredLength (value : Option String) : Except NumeralError Nat :=
  match value with
  | none => .ok 0
  | some value =>
    let trimmed := (Text.trim value).toList
    let digits := match trimmed with
      | '+' :: rest => rest
      | cs => cs
    if digits.isEmpty || !digits.all Numeral.isAsciiDigit then .ok 0
    else if digitLimit < digits.length then .error (.tooLong digits.length)
    else .ok (Numeral.valueOf digits)

/-- A request. -/
structure Request where
  method : Method
  target : String
  version : String
  headers : Headers
  body : Bytes
  captures : Captures
  client : Option Address

namespace Request

/-- The version of a request that names none. -/
def defaultVersion : String := "HTTP/1.1"

/-- The value of a header, its name in any casing. -/
def header (r : Request) (name : String) : Option String := r.headers.get? name

/-- The value captured for a variable. -/
def captured? (r : Request) (name : String) : Option String := Assoc.get? name r.captures

/-- The request with captured values. Without any, it is unchanged. -/
def withCaptures (r : Request) (captured : Captures) : Request :=
  if captured.isEmpty then r else { r with captures := captured }

/-- The target without the query. -/
def path (r : Request) : String := Text.before '?' r.target

/-- What follows the first question mark of the target. -/
def query (r : Request) : String := Text.after '?' r.target

/-- The first value of a name in the query. -/
def queryParam (r : Request) (name : String) : Option String := Query.first? r.query name

/-- The body as a text. -/
def text (r : Request) : String := ofUtf8 r.body

/-- The length that the headers declare for the body. -/
def contentLength (r : Request) : Except NumeralError Nat :=
  declaredLength (r.headers.get? "Content-Length")

/-- Whether two requests are equal but for the peer and the order of headers and captures. -/
def agree (a b : Request) : Bool :=
  a.method = b.method && a.target = b.target && a.version = b.version
    && a.headers.agree b.headers && a.body = b.body && Assoc.agree a.captures b.captures

end Request

end HttpKit
