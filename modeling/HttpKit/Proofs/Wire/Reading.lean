import HttpKit.Wire.Request

/-!
# How a reader goes on

Every function that reads looks at what one read came to and goes on accordingly. The lemmas here
say how, one for each thing that can come of the read, for any source. No later proof opens the
definitions of the readers.
-/

namespace HttpKit.Wire

variable {σ : Type} [Source σ] {limit : Int} {s s' : σ}

/-! ## The request line -/

theorem readRequestLine_of_failed {e : ParseError} (h : (Line.read limit s).1 = .failed e) :
    (readRequestLine limit s).1 = .error e := by
  rw [readRequestLine]
  split <;> simp_all

theorem readRequestLine_of_ended (h : Line.read limit s = (.ended, s')) :
    readRequestLine limit s = (.error (.malformed .emptyRequestLine), s') := by
  rw [readRequestLine, h]

theorem readRequestLine_of_text {line : String} (h : Line.read limit s = (.text line, s')) :
    readRequestLine limit s
      = if line = "" then (.error (.malformed .emptyRequestLine), s')
        else ((RequestLine.ofText line).mapError .malformed, s') := by
  rw [readRequestLine, h]
  simp

/-! ## The headers -/

theorem readPairs_of_failed {e : ParseError} (h : (Line.read limit s).1 = .failed e)
    (found : List (String × String)) : (readPairs limit found s).1 = .error e := by
  rw [readPairs]
  split <;> simp_all

theorem readPairs_of_failed_eq {e : ParseError} (h : Line.read limit s = (.failed e, s'))
    (found : List (String × String)) : readPairs limit found s = (.error e, s') := by
  rw [readPairs]
  split <;> simp_all

theorem readPairs_of_ended (h : Line.read limit s = (.ended, s'))
    (found : List (String × String)) : readPairs limit found s = (.ok found.reverse, s') := by
  rw [readPairs]
  split <;> simp_all

theorem readPairs_of_text {line : String} (h : Line.read limit s = (.text line, s'))
    (found : List (String × String)) :
    readPairs limit found s
      = if line = "" then (.ok found.reverse, s')
        else readPairs limit ((headerOf? line).toList ++ found) s' := by
  rw [readPairs]
  split <;> simp_all

theorem readHeaders_of_error {e : ParseError} (h : (readPairs limit [] s).1 = .error e) :
    (readHeaders limit s).1 = .error e := by
  simp [readHeaders, h, Except.map]

theorem readHeaders_of_ok {pairs : List (String × String)}
    (h : readPairs limit [] s = (.ok pairs, s')) :
    readHeaders limit s = (.ok (.ofList pairs), s') := by
  simp [readHeaders, h, Except.map]

/-! ## The body -/

theorem readParts_zero (found : List Bytes) (s : σ) :
    readParts 0 found s = (.ok found.reverse.flatten, s) := by
  rw [readParts, if_pos rfl]

theorem readParts_of_data {missing : Nat} {part : Bytes} (hm : missing ≠ 0)
    (h : Source.read missing s = (.data part, s')) (found : List Bytes) :
    readParts missing found s
      = if part = [] then (.ok found.reverse.flatten, s')
        else readParts (missing - part.length) (part :: found) s' := by
  rw [readParts, if_neg hm]
  split <;> simp_all

theorem readParts_of_failed {missing : Nat} {fault : ReadFault} (hm : missing ≠ 0)
    (h : Source.read missing s = (.failed fault, s')) (found : List Bytes) :
    readParts missing found s = (.error (.read fault), s') := by
  rw [readParts, if_neg hm]
  split <;> simp_all

theorem readParts_of_timedOut {missing : Nat} (hm : missing ≠ 0)
    (h : Source.read missing s = (.timedOut, s')) (found : List Bytes) :
    readParts missing found s = (.ok found.reverse.flatten, s') := by
  rw [readParts, if_neg hm]
  split <;> simp_all

/-! ## Requests -/

variable {client : Option Address} {line : RequestLine} {headers : Headers} {s₁ s₂ s₃ : σ}

theorem readRequest_of_lineError {e : ParseError} (h : (readRequestLine limit s).1 = .error e) :
    (readRequest limit client s).1 = .error e := by
  rw [readRequest]
  split <;> simp_all

theorem readRequest_of_headersError {e : ParseError}
    (hline : readRequestLine limit s = (.ok line, s₁))
    (h : (readHeaders limit s₁).1 = .error e) : (readRequest limit client s).1 = .error e := by
  simp only [readRequest, hline]
  split <;> simp_all

theorem readRequest_of_lengthError {e : NumeralError}
    (hline : readRequestLine limit s = (.ok line, s₁))
    (hheaders : readHeaders limit s₁ = (.ok headers, s₂))
    (h : declaredLength (headers.get? "Content-Length") = .error e) :
    readRequest limit client s = (.error (.length e), s₂) := by
  simp only [readRequest, hline, hheaders, h]

/-- A request whose head is read has the body that is read after it. -/
theorem readRequest_of_body {length : Nat} {body : Except ParseError Bytes}
    (hline : readRequestLine limit s = (.ok line, s₁))
    (hheaders : readHeaders limit s₁ = (.ok headers, s₂))
    (hlength : declaredLength (headers.get? "Content-Length") = .ok length)
    (hbody : readBody length s₂ = (body, s₃)) :
    readRequest limit client s
      = (body.map fun body =>
          { method := line.method, target := line.target, version := line.version
            headers, body, captures := [], client }, s₃) := by
  simp only [readRequest, hline, hheaders, hlength, hbody]

end HttpKit.Wire
