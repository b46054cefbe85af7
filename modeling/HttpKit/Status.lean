/-!
# Status codes

The registered codes with their names and reason phrases, and a phrase for every other code.
-/

namespace HttpKit

/-- A registered status. -/
structure Status where
  code : Int
  name : String
  phrase : String
  deriving DecidableEq, Repr

namespace Status

/-- The registered statuses in the order of their codes. -/
def registered : List Status :=
  [⟨100, "CONTINUE", "Continue"⟩,
   ⟨101, "SWITCHING_PROTOCOLS", "Switching Protocols"⟩,
   ⟨200, "OK", "OK"⟩,
   ⟨201, "CREATED", "Created"⟩,
   ⟨202, "ACCEPTED", "Accepted"⟩,
   ⟨204, "NO_CONTENT", "No Content"⟩,
   ⟨206, "PARTIAL_CONTENT", "Partial Content"⟩,
   ⟨301, "MOVED_PERMANENTLY", "Moved Permanently"⟩,
   ⟨302, "FOUND", "Found"⟩,
   ⟨303, "SEE_OTHER", "See Other"⟩,
   ⟨304, "NOT_MODIFIED", "Not Modified"⟩,
   ⟨307, "TEMPORARY_REDIRECT", "Temporary Redirect"⟩,
   ⟨308, "PERMANENT_REDIRECT", "Permanent Redirect"⟩,
   ⟨400, "BAD_REQUEST", "Bad Request"⟩,
   ⟨401, "UNAUTHORIZED", "Unauthorized"⟩,
   ⟨403, "FORBIDDEN", "Forbidden"⟩,
   ⟨404, "NOT_FOUND", "Not Found"⟩,
   ⟨405, "METHOD_NOT_ALLOWED", "Method Not Allowed"⟩,
   ⟨406, "NOT_ACCEPTABLE", "Not Acceptable"⟩,
   ⟨408, "REQUEST_TIMEOUT", "Request Timeout"⟩,
   ⟨409, "CONFLICT", "Conflict"⟩,
   ⟨410, "GONE", "Gone"⟩,
   ⟨411, "LENGTH_REQUIRED", "Length Required"⟩,
   ⟨413, "PAYLOAD_TOO_LARGE", "Payload Too Large"⟩,
   ⟨414, "URI_TOO_LONG", "URI Too Long"⟩,
   ⟨415, "UNSUPPORTED_MEDIA_TYPE", "Unsupported Media Type"⟩,
   ⟨418, "IM_A_TEAPOT", "I'm a teapot"⟩,
   ⟨422, "UNPROCESSABLE_ENTITY", "Unprocessable Entity"⟩,
   ⟨429, "TOO_MANY_REQUESTS", "Too Many Requests"⟩,
   ⟨500, "INTERNAL_SERVER_ERROR", "Internal Server Error"⟩,
   ⟨501, "NOT_IMPLEMENTED", "Not Implemented"⟩,
   ⟨502, "BAD_GATEWAY", "Bad Gateway"⟩,
   ⟨503, "SERVICE_UNAVAILABLE", "Service Unavailable"⟩,
   ⟨504, "GATEWAY_TIMEOUT", "Gateway Timeout"⟩,
   ⟨505, "HTTP_VERSION_NOT_SUPPORTED", "HTTP Version Not Supported"⟩]

/-- The registered status of a code. -/
def ofCode? (code : Int) : Option Status := registered.find? (·.code = code)

/-- The phrase of the class of a code: its hundreds. -/
def classPhrase? (code : Int) : Option String :=
  match code.fdiv 100 with
  | 1 => some "Informational"
  | 2 => some "Success"
  | 3 => some "Redirection"
  | 4 => some "Client Error"
  | 5 => some "Server Error"
  | _ => none

/-- The reason phrase of any code: its own, else that of its class. -/
def reason (code : Int) : String :=
  match ofCode? code with
  | some status => status.phrase
  | none => (classPhrase? code).getD "Unknown"

end Status

end HttpKit
