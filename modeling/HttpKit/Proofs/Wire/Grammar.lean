import HttpKit.Proofs.DeclaredLength
import HttpKit.Proofs.Text.Split
import HttpKit.Proofs.Wire.Body
import HttpKit.Proofs.Wire.Pieces

/-!
# The grammar of requests

What bytes in memory are read as is said here without a reader: the bytes are cut into pieces, the
first piece is the request line, the pieces up to the first empty line are the headers, and the
bytes after that are the body. `IllFormed` lists what is wrong with bytes that hold no request.

`readRequest_iff_grammar` says that reading is exact: a request is malformed if and only if the
bytes are ill-formed, and one that is read is the one that the grammar gives, with the bytes after
its body left over.

## How the argument goes

* a line is read as a piece (`HttpKit.Proofs.Wire.Pieces`)
* the header loop reads the pieces up to the first empty line (`readPairs_of_pieces`), by induction
  on the pieces
* the body loop takes what is asked for and there (`HttpKit.Proofs.Wire.Body`)
* `readRequest_cases` puts them together, one case for everything that can be wrong
-/

namespace HttpKit.Wire

/-! ## The grammar -/

/-- The first line. -/
def firstLine? (bytes : Bytes) : Option String := (pieces bytes).head?.map lineOf

/-- The words of a line, between single blanks. -/
def words (line : String) : List String := (line.toList.splitOn ' ').map String.ofList

/-- The request line that a line is: a method, a target and a version. -/
def requestLine? (line : String) : Option RequestLine :=
  match words line with
  | token :: target :: version :: _ => (Method.ofToken? token).map (⟨·, target, version⟩)
  | _ => none

/-- The pieces up to the first empty line, that one included. -/
def upToEmpty : List Bytes → List Bytes
  | [] => []
  | piece :: more => if lineOf piece = "" then [piece] else piece :: upToEmpty more

/-- The pieces after the first one, up to the first empty line. -/
def headPieces (bytes : Bytes) : List Bytes := upToEmpty (pieces bytes).tail

/-- The lines after the first one and before the first empty line. -/
def headLines (bytes : Bytes) : List String := ((pieces bytes).tail.map lineOf).takeWhile (· ≠ "")

/-- The bytes after the first empty line. -/
def bodyBytes (bytes : Bytes) : Bytes :=
  ((pieces bytes).tail.drop (headPieces bytes).length).flatten

/-- The name and the value of a line whose first colon is not its first character, both trimmed. -/
def field? (line : String) : Option (String × String) :=
  match line.toList.idxOf? ':' with
  | some i =>
    if 0 < i then
      some (Text.trim (String.ofList (line.toList.take i)),
        Text.trim (String.ofList (line.toList.drop (i + 1))))
    else none
  | none => none

/-- The headers. -/
def headersOf (bytes : Bytes) : Headers := .ofList ((headLines bytes).filterMap field?)

/-- What is wrong with bytes that hold no request. -/
inductive IllFormed (limit : Nat) (bytes : Bytes) : Prop where
  | noLine (h : firstLine? bytes = none)
  | emptyLine (h : firstLine? bytes = some "")
  | fewWords (line : String) (h : firstLine? bytes = some line) (hw : (words line).length < 3)
  | unknownMethod (line token : String) (more : List String) (h : firstLine? bytes = some line)
      (hw : words line = token :: more) (hm : Method.ofToken? token = none)
  | overlongFirst (piece : Bytes) (h : (pieces bytes).head? = some piece)
      (ho : isOverlong limit piece)
  | overlongHead (line : RequestLine) (piece : Bytes)
      (h : (firstLine? bytes).bind requestLine? = some line) (hp : piece ∈ headPieces bytes)
      (ho : isOverlong limit piece)

/-! ## Lines -/

/-- A header line is read as its field. -/
theorem headerOf?_eq_field? (line : String) : headerOf? line = field? line := by
  by_cases hm : ':' ∈ line.toList
  · obtain ⟨name, value, hl, hn⟩ := List.eq_append_cons_of_mem hm
    have hidx : line.toList.idxOf? ':' = some name.length := by
      rw [hl, List.idxOf?, List.findIdx?_append, List.findIdx?_eq_none_iff.mpr]
      · simp [List.findIdx?_cons]
      · intro c hc
        simpa using fun e : c = ':' => hn (e ▸ hc)
    rw [headerOf?, field?, hidx, hl, Text.cut_append_cons hn]
    cases name with
    | nil => rfl
    | cons c name => simp [Text.trim]
  · rw [headerOf?, field?, List.idxOf?_eq_none_iff.mpr hm, Text.cut_of_not_mem hm]

/-- A line is a request line, or it has too few words, or its first word is no method. -/
theorem ofText_cases (line : String) :
    (∃ l, RequestLine.ofText line = .ok l ∧ requestLine? line = some l)
      ∨ (∃ cause, RequestLine.ofText line = .error cause) ∧
        ((words line).length < 3 ∨ ∃ token more, words line = token :: more ∧
          Method.ofToken? token = none) := by
  have hwords : Text.splitOn ' ' line = words line := Text.splitOn_eq ' ' line
  rw [RequestLine.ofText, requestLine?, hwords]
  generalize words line = ws
  match ws with
  | [] => exact Or.inr ⟨⟨_, rfl⟩, Or.inl (by simp)⟩
  | [_] => exact Or.inr ⟨⟨_, rfl⟩, Or.inl (by simp)⟩
  | [_, _] => exact Or.inr ⟨⟨_, rfl⟩, Or.inl (by simp)⟩
  | token :: target :: version :: more =>
    cases hm : Method.ofToken? token with
    | none => exact Or.inr ⟨⟨.unknownMethod token, by simp [hm]⟩, Or.inr ⟨_, _, rfl, hm⟩⟩
    | some method => exact Or.inl ⟨⟨method, target, version⟩, by simp [hm], by simp [hm]⟩

/-! ## The header loop -/

theorem mem_upToEmpty_head (piece : Bytes) (more : List Bytes) :
    piece ∈ upToEmpty (piece :: more) := by
  rw [upToEmpty]
  split <;> simp

/-- **The header loop reads the pieces up to the first empty line.** When one of them is overlong
it stops there, else it finds the fields of the lines before the empty one. -/
theorem readPairs_of_pieces {limit : Nat} (hlimit : limit + 1 < countBound) (ps : List Bytes) :
    ∀ (bytes : Bytes) (found : List (String × String)), pieces bytes = ps →
    ((∃ piece ∈ upToEmpty ps, isOverlong limit piece) ∧
        (readPairs (limit : Int) found (Memory.mk bytes)).1 = .error (.malformed .lineTooLong))
      ∨ ((∀ piece ∈ upToEmpty ps, ¬isOverlong limit piece) ∧
        readPairs (limit : Int) found (Memory.mk bytes)
          = (.ok (found.reverse ++ ((ps.map lineOf).takeWhile (· ≠ "")).filterMap field?),
              ⟨(ps.drop (upToEmpty ps).length).flatten⟩)) := by
  induction ps with
  | nil =>
    intro bytes found h
    obtain rfl := pieces_eq_nil_iff.mp h
    refine Or.inr ⟨by simp [upToEmpty], ?_⟩
    rw [readPairs_of_ended (read_nil hlimit)]
    simp [upToEmpty]
  | cons piece more ih =>
    intro bytes found h
    have hread := read_of_pieces hlimit h
    -- The loop ends at this piece when it is overlong or empty, and goes on to the others if not.
    by_cases ho : isOverlong limit piece
    · rw [if_pos ho] at hread
      exact Or.inl ⟨⟨piece, mem_upToEmpty_head piece more, ho⟩, readPairs_of_failed hread found⟩
    · rw [if_neg ho] at hread
      by_cases he : lineOf piece = ""
      · refine Or.inr ⟨?_, ?_⟩
        · simpa [upToEmpty, he] using ho
        · rw [readPairs_of_text hread, if_pos he]
          simp [upToEmpty, he]
      · have hup : upToEmpty (piece :: more) = piece :: upToEmpty more := by
          rw [upToEmpty, if_neg he]
        rw [hup, readPairs_of_text hread, if_neg he, headerOf?_eq_field?]
        rcases ih more.flatten ((field? (lineOf piece)).toList ++ found) (pieces_tail h).2 with
          ⟨⟨p, hp, hlong⟩, hr⟩ | ⟨hshort, hr⟩
        · exact Or.inl ⟨⟨p, List.mem_cons_of_mem _ hp, hlong⟩, hr⟩
        · refine Or.inr ⟨?_, ?_⟩
          · intro p hp
            rcases List.mem_cons.mp hp with rfl | hp
            · exact ho
            · exact hshort p hp
          · rw [hr]
            cases hf : field? (lineOf piece) <;> simp [he, hf]

/-! ## Requests -/

/-- The request that well-formed bytes hold, once it is known how long its body is. -/
def requestOn (line : RequestLine) (length : Nat) (client : Option Address) (bytes : Bytes) :
    Request where
  method := line.method
  target := line.target
  version := line.version
  headers := headersOf bytes
  body := (bodyBytes bytes).take length
  captures := []
  client := client

/-- What comes of bytes whose head is well-formed: it depends on the length that they declare. -/
def outcomeOn (line : RequestLine) (client : Option Address) (bytes : Bytes) :
    Except ParseError Request × Memory :=
  match declaredLength ((headersOf bytes).get? "Content-Length") with
  | .error e => (.error (.length e), ⟨bodyBytes bytes⟩)
  | .ok length =>
    if length < countBound then
      (.ok (requestOn line length client bytes), ⟨(bodyBytes bytes).drop length⟩)
    else (.error (.read .countTooLarge), ⟨bodyBytes bytes⟩)

/-- Nothing is wrong with bytes whose request line is one and whose head keeps to the limit. -/
theorem not_illFormed {limit : Nat} {bytes piece : Bytes} {more : List Bytes} {line : RequestLine}
    (hp : pieces bytes = piece :: more) (ho : ¬isOverlong limit piece) (he : lineOf piece ≠ "")
    (hline : requestLine? (lineOf piece) = some line)
    (hshort : ∀ p ∈ upToEmpty more, ¬isOverlong limit p) : ¬IllFormed limit bytes := by
  have hfirst : firstLine? bytes = some (lineOf piece) := by simp [firstLine?, hp]
  obtain ⟨token, target, version, rest, hw, hm⟩ : ∃ token target version rest,
      words (lineOf piece) = token :: target :: version :: rest
        ∧ Method.ofToken? token = some line.method := by
    unfold requestLine? at hline
    split at hline
    · next token target version rest hw =>
      obtain ⟨method, hm, rfl⟩ := Option.map_eq_some_iff.mp hline
      exact ⟨token, target, version, rest, hw, hm⟩
    · simp at hline
  intro h
  cases h with
  | noLine h => simp [hfirst] at h
  | emptyLine h => exact he (by simpa [hfirst] using h)
  | fewWords l h hl =>
    obtain rfl : lineOf piece = l := by simpa [hfirst] using h
    rw [hw] at hl
    simp only [List.length_cons] at hl
    omega
  | unknownMethod l t rest' h hl hnone =>
    obtain rfl : lineOf piece = l := by simpa [hfirst] using h
    rw [hw, List.cons.injEq] at hl
    rw [← hl.1, hm] at hnone
    exact absurd hnone (by simp)
  | overlongFirst p h hlong =>
    obtain rfl : piece = p := by simpa [hp] using h
    exact ho hlong
  | overlongHead l p _ hmem hlong => exact hshort p (by simpa [headPieces, hp] using hmem) hlong

/-- Once the request line and the headers are read, the declared length decides. -/
theorem readRequest_of_head {limit : Nat} {bytes piece : Bytes} {more : List Bytes}
    {line : RequestLine} (hp : pieces bytes = piece :: more)
    (hline : readRequestLine (limit : Int) (Memory.mk bytes) = (.ok line, ⟨more.flatten⟩))
    (hpairs : readPairs (limit : Int) [] (Memory.mk more.flatten)
      = (.ok (((more.map lineOf).takeWhile (· ≠ "")).filterMap field?),
          ⟨(more.drop (upToEmpty more).length).flatten⟩)) (client : Option Address) :
    readRequest (limit : Int) client (Memory.mk bytes) = outcomeOn line client bytes := by
  have hheaders : readHeaders (limit : Int) (Memory.mk more.flatten)
      = (.ok (headersOf bytes), ⟨bodyBytes bytes⟩) := by
    rw [readHeaders_of_ok hpairs]
    simp [headersOf, headLines, bodyBytes, headPieces, hp]
  cases hd : declaredLength ((headersOf bytes).get? "Content-Length") with
  | error e => rw [readRequest_of_lengthError hline hheaders hd, outcomeOn, hd]
  | ok length =>
    rw [outcomeOn, hd]
    by_cases hl : length < countBound
    · rw [readRequest_of_body hline hheaders hd (readBody_memory hl _)]
      simp [hl, requestOn, Except.map]
    · rw [readRequest_of_body hline hheaders hd (readBody_of_countBound_le (by omega) _)]
      simp [hl, Except.map]

/-- **Bytes in memory are malformed exactly when they are ill-formed.** When they are well-formed
the length that they declare decides what comes of them. -/
theorem readRequest_cases {limit : Nat} (hlimit : limit + 1 < countBound)
    (client : Option Address) (bytes : Bytes) :
    (IllFormed limit bytes ∧
        ∃ cause, (readRequest (limit : Int) client (Memory.mk bytes)).1 = .error (.malformed cause))
      ∨ (¬IllFormed limit bytes ∧
        ∃ line, (firstLine? bytes).bind requestLine? = some line ∧
          readRequest (limit : Int) client (Memory.mk bytes) = outcomeOn line client bytes) := by
  cases hp : pieces bytes with
  | nil =>
    obtain rfl := pieces_eq_nil_iff.mp hp
    have hread := readRequestLine_of_ended (read_nil hlimit)
    exact Or.inl ⟨.noLine rfl, _, readRequest_of_lineError (by rw [hread])⟩
  | cons piece more =>
    have hfirst : firstLine? bytes = some (lineOf piece) := by simp [firstLine?, hp]
    have hread := read_of_pieces hlimit hp
    by_cases ho : isOverlong limit piece
    · rw [if_pos ho] at hread
      exact Or.inl ⟨.overlongFirst piece (by simp [hp]) ho, _,
        readRequest_of_lineError (readRequestLine_of_failed hread)⟩
    rw [if_neg ho] at hread
    have hline := readRequestLine_of_text hread
    by_cases he : lineOf piece = ""
    · rw [if_pos he] at hline
      exact Or.inl ⟨.emptyLine (by rw [hfirst, he]), _,
        readRequest_of_lineError (by rw [hline])⟩
    rw [if_neg he] at hline
    -- A request line that is none is found out before any header is read.
    rcases ofText_cases (lineOf piece) with ⟨line, hok, hsome⟩ | ⟨⟨cause, herror⟩, hbad⟩
    · rw [hok] at hline
      have hbind : (firstLine? bytes).bind requestLine? = some line := by simp [hfirst, hsome]
      have hrest := (pieces_tail hp).2
      rcases readPairs_of_pieces hlimit more more.flatten [] hrest with
        ⟨⟨p, hmem, hlong⟩, hr⟩ | ⟨hshort, hr⟩
      · exact Or.inl ⟨.overlongHead line p hbind (by simpa [headPieces, hp] using hmem) hlong, _,
          readRequest_of_headersError hline (readHeaders_of_error hr)⟩
      · exact Or.inr ⟨not_illFormed hp ho he hsome hshort, line, hbind,
          readRequest_of_head hp hline hr client⟩
    · rw [herror] at hline
      refine Or.inl ⟨?_, cause, readRequest_of_lineError (by rw [hline]; rfl)⟩
      rcases hbad with hw | ⟨token, rest, hw, hm⟩
      · exact .fewWords _ hfirst hw
      · exact .unknownMethod _ token rest hfirst hw hm

/-- Under a limit that cannot be counted nothing is read. -/
theorem readRequest_of_countBound_le {limit : Nat} (h : countBound ≤ limit + 1)
    (client : Option Address) (bytes : Bytes) :
    (readRequest (limit : Int) client (Memory.mk bytes)).1 = .error (.read .countTooLarge) :=
  readRequest_of_lineError (readRequestLine_of_failed (read_of_countBound_le h bytes))

/-- **Reading implements the grammar on every sequence of bytes.** Under a limit that can be
counted a request is malformed if and only if the bytes are ill-formed, and what is read from
well-formed bytes that declare a length that can be counted is the request that the grammar gives,
up to the first byte after its body. Under any other limit nothing is read. -/
theorem readRequest_iff_grammar (limit : Nat) (client : Option Address) (bytes : Bytes) :
    (limit + 1 < countBound →
      ((∃ cause, (readRequest (limit : Int) client (Memory.mk bytes)).1
          = .error (.malformed cause)) ↔ IllFormed limit bytes)
      ∧ ∀ (request : Request) (rest : Memory),
        readRequest (limit : Int) client (Memory.mk bytes) = (.ok request, rest) ↔
          ¬IllFormed limit bytes ∧ ∃ line length,
            (firstLine? bytes).bind requestLine? = some line
            ∧ Declares ((headersOf bytes).get? "Content-Length") length
            ∧ length < countBound
            ∧ request = requestOn line length client bytes
            ∧ rest = ⟨(bodyBytes bytes).drop length⟩)
    ∧ (countBound ≤ limit + 1 →
      (readRequest (limit : Int) client (Memory.mk bytes)).1
        = .error (.read .countTooLarge)) := by
  refine ⟨fun hlimit => ?_, fun h => readRequest_of_countBound_le h client bytes⟩
  simp only [← declaredLength_eq_ok_iff]
  rcases readRequest_cases hlimit client bytes with ⟨hill, cause, hc⟩ | ⟨hwell, line, hline, hout⟩
  · refine ⟨⟨fun _ => hill, fun _ => ⟨cause, hc⟩⟩, fun request rest => ?_⟩
    constructor
    · intro h
      simp [h] at hc
    · rintro ⟨hwell, _⟩
      exact absurd hill hwell
  · rw [hout, outcomeOn]
    cases hd : declaredLength ((headersOf bytes).get? "Content-Length") with
    | error e => simp [hwell]
    | ok length =>
      by_cases hl : length < countBound
      · simp [hwell, hline, hl, eq_comm]
      · simp [hwell, hl]

/-- The greatest count is no limit: one more cannot be counted, so that not even the missing
request line of no bytes is found out. -/
theorem readRequest_greatest_count :
    IllFormed (countBound - 1) []
      ∧ ¬∃ cause, (readRequest ((countBound - 1 : Nat) : Int) none (Memory.mk [])).1
          = .error (.malformed cause) := by
  refine ⟨.noLine rfl, ?_⟩
  rintro ⟨cause, h⟩
  rw [readRequest_of_countBound_le (by decide)] at h
  simp at h

end HttpKit.Wire
