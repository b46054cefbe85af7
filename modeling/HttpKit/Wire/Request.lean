import HttpKit.Request
import HttpKit.Text.Blank
import HttpKit.Wire.Line

/-!
# Requests on the wire

A request line, header lines up to an empty one, and as many bytes of body as the headers declare.
Header lines without a name before a colon are passed over. A source that ends early ends the
request where it stands.
-/

namespace HttpKit.Wire

variable {σ : Type} [Source σ]

/-- The first line of a request. -/
structure RequestLine where
  method : Method
  target : String
  version : String

/-- Three words between single blanks, and what follows them does not count. -/
def RequestLine.ofText (line : String) : Except Malformed RequestLine :=
  match Text.splitOn ' ' line with
  | token :: target :: version :: _ =>
    match Method.ofToken? token with
    | some method => .ok ⟨method, target, version⟩
    | none => .error (.unknownMethod token)
  | _ => .error (.shortRequestLine line)

/-- Reads the first line of a request. -/
def readRequestLine (limit : Int) (s : σ) : Except ParseError RequestLine × σ :=
  match Line.read limit s with
  | (.failed e, s) => (.error e, s)
  | (.ended, s) => (.error (.malformed .emptyRequestLine), s)
  | (.text line, s) =>
    if line.isEmpty then (.error (.malformed .emptyRequestLine), s)
    else ((RequestLine.ofText line).mapError .malformed, s)

/-- The name and the value that a header line holds, both trimmed, unless nothing precedes its
first colon. -/
def headerOf? (line : String) : Option (String × String) :=
  match Text.cut ':' line.toList with
  | (name, some value) =>
    if name.isEmpty then none
    else some (String.ofList (Text.trimBy Text.isBlank name),
      String.ofList (Text.trimBy Text.isBlank value))
  | (_, none) => none

/-- Reads header lines up to an empty one. `found` holds the headers so far, the last first. -/
def readPairs (limit : Int) (found : List (String × String)) (s : σ) :
    Except ParseError (List (String × String)) × σ :=
  match _h : Line.read limit s with
  | (.failed e, s') => (.error e, s')
  | (.ended, s') => (.ok found.reverse, s')
  | (.text line, s') =>
    if line.isEmpty then (.ok found.reverse, s')
    else readPairs limit ((headerOf? line).toList ++ found) s'
  termination_by Source.size s
  decreasing_by exact Line.size_read _h

/-- Reads the headers. -/
def readHeaders (limit : Int) (s : σ) : Except ParseError Headers × σ :=
  let (pairs, s) := readPairs limit [] s
  (pairs.map Headers.ofList, s)

/-- Reads the bytes of a body until none are missing or the source has ended. `found` holds the
parts so far, the last first. -/
def readParts (missing : Nat) (found : List Bytes) (s : σ) : Except ParseError Bytes × σ :=
  if missing = 0 then (.ok found.reverse.flatten, s)
  else
    match _h : Source.read missing s with
    | (.failed fault, s') => (.error (.read fault), s')
    | (.timedOut, s') => (.ok found.reverse.flatten, s')
    | (.data part, s') =>
      if part = [] then (.ok found.reverse.flatten, s')
      else readParts (missing - part.length) (part :: found) s'
  termination_by Source.size s
  decreasing_by exact Source.size_read _h ‹_›

/-- Reads a body of a length. -/
def readBody (length : Nat) (s : σ) : Except ParseError Bytes × σ := readParts length [] s

/-- Reads a request. Whatever it comes to, what follows is left in the source. -/
def readRequest (limit : Int) (client : Option Address) (s : σ) : Except ParseError Request × σ :=
  match readRequestLine limit s with
  | (.error e, s) => (.error e, s)
  | (.ok line, s) =>
    match readHeaders limit s with
    | (.error e, s) => (.error e, s)
    | (.ok headers, s) =>
      match declaredLength (headers.get? "Content-Length") with
      | .error e => (.error (.length e), s)
      | .ok length =>
        let (body, s) := readBody length s
        (body.map fun body =>
          { method := line.method, target := line.target, version := line.version
            headers, body, captures := [], client }, s)

/-- The request that bytes start with. -/
def requestOf (bytes : Bytes) (client : Option Address) : Except ParseError Request :=
  (readRequest defaultLineLimit client (Memory.mk bytes)).1

end HttpKit.Wire
