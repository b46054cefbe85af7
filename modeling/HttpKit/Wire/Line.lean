import HttpKit.Numeral.Error
import HttpKit.Text.Quoted
import HttpKit.Wire.Source

/-!
# Lines of a message head

A line ends at a line feed, one carriage return before it does not count, and what is between is
UTF-8. A source that has ended, or that has kept its reader waiting too long, has no more lines.
-/

namespace HttpKit

/-- What makes a request malformed. -/
inductive Malformed where
  | lineTooLong
  | emptyRequestLine
  | shortRequestLine (line : String)
  | unknownMethod (token : String)
  deriving DecidableEq, Repr

/-- What is said about it. -/
def Malformed.message : Malformed → String
  | lineTooLong => "Line too long"
  | emptyRequestLine => "Empty request line"
  | shortRequestLine line => "Malformed request line: " ++ Text.quoted line
  | unknownMethod token => "Unknown method: " ++ Text.quoted token

/-- Why no request is read. -/
inductive ParseError where
  | malformed (cause : Malformed)
  /-- The declared length of the body is not read. -/
  | length (e : NumeralError)
  | read (fault : ReadFault)

/-- The length of a line beyond which a request is malformed, unless told otherwise. -/
def defaultLineLimit : Int := 64 * 1024

/-- What reading a line comes to. -/
inductive Line where
  | text (line : String)
  | ended
  | failed (e : ParseError)

namespace Line

/-- The bytes without the line feed at their end and then without a carriage return there. -/
def chomp (raw : Bytes) : Bytes :=
  let unfed := if raw.getLast? = some lineFeed then raw.dropLast else raw
  if unfed.getLast? = some carriageReturn then unfed.dropLast else unfed

/-- The line that bytes are. Those that go beyond the limit without an end are too many. -/
def ofBytes (limit : Int) (raw : Bytes) : Line :=
  if raw.isEmpty then .ended
  else if limit < raw.length ∧ raw.getLast? ≠ some lineFeed then .failed (.malformed .lineTooLong)
  else .text (ofUtf8 (chomp raw))

/-- The line that a delivery is. -/
def ofDelivery (limit : Int) : Delivery → Line
  | .data raw => ofBytes limit raw
  | .timedOut => .ended
  | .failed fault => .failed (.read fault)

variable {σ : Type} [Source σ]

/-- Reads a line of at most `limit` bytes, not counting its end. -/
def read (limit : Int) (s : σ) : Line × σ :=
  let (delivery, s) := Source.readLine (limit + 1) s
  (ofDelivery limit delivery, s)

/-- Only bytes make up a line. -/
theorem bytes_of_ofDelivery {limit : Int} {d : Delivery} {line : String}
    (h : ofDelivery limit d = .text line) : ∃ raw, d = .data raw ∧ raw ≠ [] := by
  cases d with
  | data raw =>
    refine ⟨raw, rfl, fun hr => ?_⟩
    simp [ofDelivery, ofBytes, hr] at h
  | timedOut => simp [ofDelivery] at h
  | failed fault => simp [ofDelivery] at h

/-- A line that was read leaves fewer bytes. -/
theorem size_read {limit : Int} {s s' : σ} {line : String} (h : read limit s = (.text line, s')) :
    Source.size s' < Source.size s := by
  simp only [read, Prod.mk.injEq] at h
  obtain ⟨hl, hs⟩ := h
  obtain ⟨raw, hd, hr⟩ := bytes_of_ofDelivery hl
  exact Source.size_readLine (Prod.ext hd hs) hr

end Line

end HttpKit
