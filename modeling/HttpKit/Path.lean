import HttpKit.Text.Blank
import HttpKit.Text.Quoted
import HttpKit.Text.Split

/-!
# Paths and their segments

A path is matched segment by segment. The query and slashes at the end do not matter, and a slash
at the start may be left out.
-/

namespace HttpKit

namespace Path

/-- The path that is matched: it starts with a slash and has no query. -/
def canonical (path : String) : String :=
  let cs := path.toList
  if cs.isEmpty then "/"
  else if cs.head? = some '/' then Text.before '?' path
  else Text.before '?' ("/" ++ path)

/-- The segments of a canonical path. Empty ones at the end are dropped, others are kept. -/
def segmentsOf (canonical : String) : List String :=
  if canonical = "/" then []
  else
    let cs := Text.pieces '/' (canonical.toList.drop 1)
    ((cs.reverse.dropWhile List.isEmpty).reverse).map String.ofList

/-- The segments of any path. -/
def segments (path : String) : List String := segmentsOf (canonical path)

/-- The path of segments. -/
def ofSegments (segments : List String) : String := "/" ++ "/".intercalate segments

end Path

/-- What a segment of a template matches. -/
inductive Token where
  /-- This text. -/
  | literal (text : String)
  /-- Any text, captured under a name. -/
  | capture (name : String)
  deriving DecidableEq, Repr

/-- A variable whose name is blank. -/
structure BlankVariable where
  segment : String
  deriving DecidableEq, Repr

/-- What is said about it. -/
def BlankVariable.message (e : BlankVariable) : String :=
  "Path variable name must not be blank: " ++ Text.quoted e.segment

namespace Token

/-- The token that a segment of a template stands for: a variable if it is enclosed in braces with
something between them. -/
def ofSegment (segment : String) : Except BlankVariable Token :=
  let cs := segment.toList
  if 2 < cs.length ∧ cs.head? = some '\x7b' ∧ cs.getLast? = some '\x7d' then
    let name := (cs.drop 1).dropLast
    if name.all Text.isBlank then .error ⟨segment⟩ else .ok (.capture (String.ofList name))
  else .ok (.literal segment)

/-- The segment that the token is written as. -/
def segment : Token → String
  | literal text => text
  | capture name => "\x7b" ++ name ++ "\x7d"

end Token

end HttpKit
