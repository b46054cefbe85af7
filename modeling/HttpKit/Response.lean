import HttpKit.Headers
import HttpKit.Status
import HttpKit.Text.Raw

/-!
# Responses

The texts of a response come from the application and may hold surrogates. Such a response is kept
and changed as any other, but there are no bytes of it. A status is a code from 100 to 999; others
are written as they are, however many digits they have.
-/

namespace HttpKit

/-- The content type of a response that names none. -/
def defaultContentType : String := "text/plain; charset=UTF-8"

/-- A response. -/
structure Response where
  status : Int
  reason : RawText
  headers : Headers RawText
  body : Bytes

namespace Response

/-- A response with the reason phrase of its status. -/
def of (status : Int) (headers : Headers RawText) (body : Bytes) : Response :=
  ⟨status, Status.reason status, headers, body⟩

/-- A text without headers of its own. -/
def text (status : Int) (body : String) : Response := of status .empty (utf8 body)

/-- The first line on the wire. -/
def statusLine (r : Response) : RawText := s!"HTTP/1.1 {r.status} " ++ r.reason

/-- The response with a header set. -/
def withHeader (r : Response) (name value : RawText) : Response :=
  { r with headers := r.headers.insert name value }

/-- The headers that every transport sends: length and type of the content are added unless they
are there. -/
def effectiveHeaders (r : Response) : Headers RawText :=
  r.headers.withDefaults
    [("Content-Length", toString r.body.length), ("Content-Type", defaultContentType)]

/-- The headers on a connection that closes after the response. -/
def closingHeaders (r : Response) : Headers RawText :=
  r.effectiveHeaders.insert "Connection" "close"

/-- A header as a line. -/
def headerLine (pair : RawText × RawText) : RawText := pair.1 ++ ": " ++ pair.2

/-- The status line and the headers, every line ended by CR and LF, and an empty line. -/
def head (r : Response) : RawText :=
  .join ((r.statusLine :: r.closingHeaders.toList.map headerLine).map (· ++ "\r\n")) ++ "\r\n"

/-- The response on a connection that closes after it. There are no bytes where a text of the head
holds a surrogate. -/
def toBytes? (r : Response) : Option Bytes := r.head.bytes?.map (· ++ r.body)

/-- Whether two responses are equal but for the order of headers. -/
def agree (a b : Response) : Bool :=
  a.status = b.status && a.reason = b.reason && a.headers.agree b.headers && a.body = b.body

end Response

end HttpKit
