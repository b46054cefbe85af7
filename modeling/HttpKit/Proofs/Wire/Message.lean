import HttpKit.Wire.Request
import Mathlib.Tactic.MkIffOfInductiveProp

/-!
# Requests as they are written

A message is a request together with everything that its written form leaves open: the casing of the
method, and for every line of the head whether a carriage return stands before the line feed. A
message is written as the lines of its head, an empty line, and its body.

`Message.WellFormed` says which messages can be written without anything in them being taken for
something else. The body is not restricted: its length is declared, not its end.
-/

namespace HttpKit.Wire

/-! ## Lines -/

/-- What ends a line. -/
inductive LineEnd where
  | crlf
  | lf
  deriving DecidableEq, Repr

/-- The bytes that stand before the line feed. -/
def LineEnd.lead : LineEnd → Bytes
  | crlf => [carriageReturn]
  | lf => []

/-- A line of a head, and what ends it. -/
structure HeadLine where
  text : String
  ending : LineEnd

/-- The bytes of a line but for the line feed. These are what a limit counts. -/
def HeadLine.content (line : HeadLine) : Bytes := utf8 line.text ++ line.ending.lead

/-- The bytes of a line. -/
def HeadLine.bytes (line : HeadLine) : Bytes := line.content ++ [lineFeed]

/-- The line that ends a head. -/
def HeadLine.empty (ending : LineEnd) : HeadLine := ⟨"", ending⟩

/-! ## Messages -/

/-- A header, and what ends its line. -/
structure Field where
  name : String
  value : String
  ending : LineEnd

namespace Field

/-- The name and the value. -/
def pair (f : Field) : String × String := (f.name, f.value)

/-- The line of a header. -/
def line (f : Field) : HeadLine := ⟨f.name ++ ": " ++ f.value, f.ending⟩

end Field

/-- The lines of headers and the empty one after them. -/
def headerLines (fields : List Field) (blank : LineEnd) : List HeadLine :=
  fields.map Field.line ++ [.empty blank]

/-- A request to be written. `token` spells the method, and `blank` ends the empty line. -/
structure Message where
  method : Method
  token : String
  target : String
  version : String
  ending : LineEnd
  fields : List Field
  blank : LineEnd
  body : Bytes

namespace Message

/-- The request line. -/
def requestLine (m : Message) : HeadLine :=
  ⟨m.token ++ " " ++ m.target ++ " " ++ m.version, m.ending⟩

/-- The lines of the head, the empty one included. -/
def head (m : Message) : List HeadLine := m.requestLine :: headerLines m.fields m.blank

/-- The bytes of a message. -/
def write (m : Message) : Bytes := m.head.flatMap HeadLine.bytes ++ m.body

/-- The bytes of messages one after the other. -/
def writeAll (ms : List Message) : Bytes := ms.flatMap write

/-- The headers as names and values. -/
def pairs (m : Message) : List (String × String) := m.fields.map Field.pair

/-- The request that a message stands for. -/
def request (m : Message) (client : Option Address) : Request where
  method := m.method
  target := m.target
  version := m.version
  headers := .ofList m.pairs
  body := m.body
  captures := []
  client := client

end Message

/-! ## Well-formedness -/

/-- Whether a text does not end the line it stands in. -/
def Inline (s : String) : Prop := '\r' ∉ s.toList ∧ '\n' ∉ s.toList

instance (s : String) : Decidable (Inline s) := inferInstanceAs (Decidable (_ ∧ _))

/-- Whether a text is one word of a line. -/
def OneWord (s : String) : Prop := ' ' ∉ s.toList ∧ Inline s

instance (s : String) : Decidable (OneWord s) := inferInstanceAs (Decidable (_ ∧ _))

/-- Headers whose line says what they are. -/
@[mk_iff]
structure Field.WellFormed (f : Field) : Prop where
  name_nonempty : f.name ≠ ""
  name_trimmed : Text.trim f.name = f.name
  name_inline : Inline f.name
  name_uncut : ':' ∉ f.name.toList
  value_trimmed : Text.trim f.value = f.value
  value_inline : Inline f.value

instance (f : Field) : Decidable f.WellFormed :=
  decidable_of_iff' _ (Field.wellFormed_iff f)

/-- Whether a header declares the length of the body. -/
def Field.DeclaresLength (f : Field) : Prop := Text.lower f.name = Text.lower "Content-Length"

instance (f : Field) : Decidable f.DeclaresLength := inferInstanceAs (Decidable (_ = _))

/-- Messages that keep to the wire format, with no line of the head beyond the limit. -/
@[mk_iff]
structure Message.WellFormed (limit : Nat) (m : Message) : Prop where
  /-- The token spells the method in any casing. -/
  token : m.token.toList.map Char.toUpper = m.method.name.toList
  target : OneWord m.target
  version : OneWord m.version
  fields : ∀ f ∈ m.fields, f.WellFormed
  distinct : (m.fields.map fun f => Text.lower f.name).Nodup
  /-- A declared length is that of the body. -/
  declared : ∀ f ∈ m.fields, f.DeclaresLength →
    f.value = toString m.body.length ∨ f.value = "+" ++ toString m.body.length
  /-- Only an empty body goes undeclared. -/
  undeclared : (∀ f ∈ m.fields, ¬f.DeclaresLength) → m.body = []
  counted : m.body.length < countBound
  short : ∀ line ∈ m.head, line.content.length ≤ limit

instance (limit : Nat) (m : Message) : Decidable (m.WellFormed limit) :=
  decidable_of_iff' _ (Message.wellFormed_iff limit m)

end HttpKit.Wire
