import HttpKit.Proofs.Bytes.Utf8
import HttpKit.Proofs.DeclaredLength
import HttpKit.Proofs.Headers
import HttpKit.Proofs.Method
import HttpKit.Proofs.Wire.Body
import HttpKit.Proofs.Wire.Message
import HttpKit.Proofs.Wire.Pieces

/-!
# Reading back what was written

Well-formed messages are read back as the requests that they stand for, also when they are written
one after the other.

## How the argument goes

* a line is read back whatever ends it (`read_delimited`): no line feed is within it, and the one
  carriage return before the line feed is dropped
* a request line has three words, for none of them holds a blank (`ofText_requestLine`)
* the first colon of a header line is the one after the name (`headerOf?_line`), and by induction on
  the headers all lines are read (`readPairs_lines`)
* the length declared is that of the body (`declaredLength_pairs`), so that the body ends where the
  next message begins, whatever is in it

`readRequest_lines` puts this together for any message whose lines can be told apart, and
`readEach_writeAll` repeats it by induction on the messages.
-/

namespace HttpKit.Wire

/-! ## Lines -/

/-- Whether the text of a line ends where the line does. A carriage return within it is only
mistaken for the end if the line has none of its own. -/
def HeadLine.Delimited (line : HeadLine) : Prop :=
  '\n' ∉ line.text.toList ∧ (line.ending = .lf → '\r' ∉ line.text.toList)

instance (line : HeadLine) : Decidable line.Delimited := inferInstanceAs (Decidable (_ ∧ _))

theorem Inline.delimited {line : HeadLine} (h : Inline line.text) : line.Delimited :=
  ⟨h.2, fun _ => h.1⟩

theorem HeadLine.empty_delimited (ending : LineEnd) : (HeadLine.empty ending).Delimited :=
  Inline.delimited ⟨List.not_mem_nil, List.not_mem_nil⟩

theorem lineFeed_not_mem_content {line : HeadLine} (h : line.Delimited) :
    lineFeed ∉ line.content := by
  rw [HeadLine.content, List.mem_append, not_or]
  refine ⟨not_mem_utf8 (by decide) h.1, ?_⟩
  cases line.ending <;> decide

/-- What ends a line is not part of it. -/
theorem lineOf_bytes {line : HeadLine} (h : line.Delimited) : lineOf line.bytes = line.text := by
  rw [lineOf, HeadLine.bytes, unfed_append_lineFeed, HeadLine.content]
  cases hend : line.ending with
  | crlf =>
    rw [LineEnd.lead, List.getLast?_concat, if_pos rfl, List.dropLast_concat, ofUtf8_utf8]
  | lf =>
    have hlast : (utf8 line.text).getLast? ≠ some carriageReturn := fun hl =>
      not_mem_utf8 (c := '\r') (by decide) (h.2 hend) (List.mem_of_getLast? hl)
    rw [LineEnd.lead, List.append_nil, if_neg hlast, ofUtf8_utf8]

section Read

variable {limit : Nat} (hlimit : limit + 1 < countBound)
include hlimit

/-- **A line is read back whatever ends it.** -/
theorem read_delimited {line : HeadLine} (h : line.Delimited) (hs : line.content.length ≤ limit)
    (rest : Bytes) :
    Line.read (limit : Int) (Memory.mk (line.bytes ++ rest)) = (.text line.text, ⟨rest⟩) := by
  have hread := read_of_terminated hlimit (lineFeed_not_mem_content h) hs rest
  rw [show line.content ++ [lineFeed] = line.bytes from rfl, lineOf_bytes h] at hread
  rw [show line.bytes ++ rest = line.content ++ lineFeed :: rest by simp [HeadLine.bytes]]
  exact hread

theorem read_headLine {line : HeadLine} (h : Inline line.text) (hs : line.content.length ≤ limit)
    (rest : Bytes) :
    Line.read (limit : Int) (Memory.mk (line.bytes ++ rest)) = (.text line.text, ⟨rest⟩) :=
  read_delimited hlimit h.delimited hs rest

end Read

/-! ## The request line -/

theorem splitOn_words {a b c : String} (ha : ' ' ∉ a.toList) (hb : ' ' ∉ b.toList)
    (hc : ' ' ∉ c.toList) : Text.splitOn ' ' (a ++ " " ++ b ++ " " ++ c) = [a, b, c] := by
  have hline : (a ++ " " ++ b ++ " " ++ c).toList
      = a.toList ++ ' ' :: (b.toList ++ ' ' :: c.toList) := by simp
  rw [Text.splitOn_eq, hline, List.splitOn_append_cons_self_of_not_mem ha,
    List.splitOn_append_cons_self_of_not_mem hb, List.splitOn_eq_singleton hc]
  simp

/-- What the names of methods do not hold and upper case leaves alone is in no token. -/
theorem not_mem_token {token : String} {m : Method}
    (h : token.toList.map Char.toUpper = m.name.toList) {c : Char} (hc : c.toUpper = c)
    (hn : c ∉ m.name.toList) : c ∉ token.toList := by
  intro hm
  rw [← h] at hn
  exact hn (hc ▸ List.mem_map_of_mem hm)

theorem token_oneWord {token : String} {m : Method}
    (h : token.toList.map Char.toUpper = m.name.toList) : OneWord token := by
  refine ⟨not_mem_token h (by decide) ?_, not_mem_token h (by decide) ?_,
    not_mem_token h (by decide) ?_⟩ <;> cases m <;> decide

namespace Message

variable {limit : Nat} {m : Message}

theorem requestLine_inline (h : m.WellFormed limit) : Inline m.requestLine.text := by
  obtain ⟨_, htr, htn⟩ := token_oneWord h.token
  obtain ⟨_, hr, hn⟩ := h.target
  obtain ⟨_, hvr, hvn⟩ := h.version
  constructor <;> simp [requestLine, *]

/-- **The request line is read as the method, the target and the version.** -/
theorem ofText_requestLine (htoken : m.token.toList.map Char.toUpper = m.method.name.toList)
    (htarget : ' ' ∉ m.target.toList) (hversion : ' ' ∉ m.version.toList) :
    RequestLine.ofText m.requestLine.text = .ok ⟨m.method, m.target, m.version⟩ := by
  have hwords := splitOn_words (token_oneWord htoken).1 htarget hversion
  rw [RequestLine.ofText, requestLine, hwords]
  simp only [Method.ofToken?_of_toUpper htoken]

end Message

theorem ne_empty_of_ofText {text : String} {line : RequestLine}
    (h : RequestLine.ofText text = .ok line) : text ≠ "" := by
  rintro rfl
  have hempty : RequestLine.ofText "" = .error (.shortRequestLine "") := rfl
  rw [hempty] at h
  simp at h

/-! ## The headers -/

namespace Field

variable {f : Field}

theorem line_inline (h : f.WellFormed) : Inline f.line.text := by
  obtain ⟨hnr, hnn⟩ := h.name_inline
  obtain ⟨hvr, hvn⟩ := h.value_inline
  constructor <;> simp [line, *]

theorem line_ne (f : Field) : f.line.text ≠ "" := by
  simp [line]

/-- The first colon of a line is the one after the name, unless there is no name. -/
theorem headerOf?_line_eq (hname : Text.trim f.name = f.name) (huncut : ':' ∉ f.name.toList)
    (hvalue : Text.trim f.value = f.value) :
    headerOf? f.line.text = if f.name = "" then none else some f.pair := by
  have hline : f.line.text.toList = f.name.toList ++ ':' :: ' ' :: f.value.toList := by
    simp [line]
  rw [headerOf?, hline, Text.cut_append_cons huncut]
  simp only [List.isEmpty_iff, String.toList_eq_nil_iff]
  rw [Text.trimBy_cons (by decide), Text.trimBy_toList, Text.trimBy_toList, hname, hvalue, pair]

/-- **The line of a header is read as its name and its value.** -/
theorem headerOf?_line (h : f.WellFormed) : headerOf? f.line.text = some f.pair := by
  rw [headerOf?_line_eq h.name_trimmed h.name_uncut h.value_trimmed, if_neg h.name_nonempty]

end Field

theorem headerOf?_fields {fields : List Field} (h : ∀ f ∈ fields, f.WellFormed) :
    fields.filterMap (headerOf? ·.line.text) = fields.map Field.pair := by
  rw [← List.filterMap_eq_map]
  exact List.filterMap_congr fun f hf => Field.headerOf?_line (h f hf)

theorem forall_headerLines {p : HeadLine → Prop} {fields : List Field} {blank : LineEnd} :
    (∀ line ∈ headerLines fields blank, p line) ↔ (∀ f ∈ fields, p f.line) ∧ p (.empty blank) := by
  rw [headerLines, List.forall_mem_append, List.forall_mem_map, List.forall_mem_singleton]

/-- **Lines are read up to the empty one.** Each gives the header that it holds, if any. -/
theorem readPairs_lines {limit : Nat} (hlimit : limit + 1 < countBound) {fields : List Field}
    {blank : LineEnd} (hdelimited : ∀ line ∈ headerLines fields blank, line.Delimited)
    (hshort : ∀ line ∈ headerLines fields blank, line.content.length ≤ limit) (rest : Bytes) :
    ∀ found : List (String × String),
    readPairs (limit : Int) found
        (Memory.mk ((headerLines fields blank).flatMap HeadLine.bytes ++ rest))
      = (.ok (found.reverse ++ fields.filterMap (headerOf? ·.line.text)), ⟨rest⟩) := by
  induction fields with
  | nil =>
    intro found
    have hread := read_delimited hlimit (hdelimited (.empty blank) List.mem_cons_self)
      (hshort _ List.mem_cons_self) rest
    rw [headerLines, List.map_nil, List.nil_append, List.flatMap_singleton,
      readPairs_of_text hread, if_pos (show (HeadLine.empty blank).text = "" from rfl)]
    simp
  | cons f fields ih =>
    intro found
    rw [headerLines, List.map_cons, List.cons_append, ← headerLines] at hdelimited hshort
    have hread := read_delimited hlimit (hdelimited _ List.mem_cons_self)
      (hshort _ List.mem_cons_self) ((headerLines fields blank).flatMap HeadLine.bytes ++ rest)
    rw [headerLines, List.map_cons, List.cons_append, List.flatMap_cons, List.append_assoc,
      ← headerLines, readPairs_of_text hread, if_neg f.line_ne,
      ih (fun line hl => hdelimited line (List.mem_cons_of_mem _ hl))
        (fun line hl => hshort line (List.mem_cons_of_mem _ hl))]
    cases hf : headerOf? f.line.text <;> simp [hf]

/-- **All headers up to the empty line are found, in order.** -/
theorem readPairs_fields {limit : Nat} (hlimit : limit + 1 < countBound) {fields : List Field}
    (hwell : ∀ f ∈ fields, f.WellFormed) (hshort : ∀ f ∈ fields, f.line.content.length ≤ limit)
    {blank : LineEnd} (hblank : (HeadLine.empty blank).content.length ≤ limit) (rest : Bytes)
    (found : List (String × String)) :
    readPairs (limit : Int) found
        (Memory.mk ((headerLines fields blank).flatMap HeadLine.bytes ++ rest))
      = (.ok (found.reverse ++ fields.map Field.pair), ⟨rest⟩) := by
  have hdelimited : ∀ f ∈ fields, f.line.Delimited := fun f hf =>
    (Field.line_inline (hwell f hf)).delimited
  rw [← headerOf?_fields hwell]
  exact readPairs_lines hlimit (forall_headerLines.mpr ⟨hdelimited, HeadLine.empty_delimited blank⟩)
    (forall_headerLines.mpr ⟨hshort, hblank⟩) rest found

namespace Message

variable {limit : Nat} {m : Message}

theorem keysOf_pairs (h : m.WellFormed limit) : (Headers.keysOf m.pairs).Nodup := by
  have hkeys : Headers.keysOf m.pairs = m.fields.map fun f => Text.lower f.name := by
    rw [Headers.keysOf, pairs, List.map_map]
    rfl
  rw [hkeys]
  exact h.distinct

/-- **The headers declare the length of the body.** -/
theorem declaredLength_pairs (h : m.WellFormed limit) :
    declaredLength ((Headers.ofList m.pairs).get? "Content-Length") = .ok m.body.length := by
  have hget : (Headers.ofList m.pairs).get? "Content-Length"
      = (m.fields.find? fun f => Text.lower f.name = Text.lower "Content-Length").map
          Field.value := by
    rw [Headers.get?_ofList (keysOf_pairs h), pairs, List.find?_map, Option.map_map]
    rfl
  rw [hget]
  -- At most one header declares a length, so the one found is the one that was written.
  cases hfind : m.fields.find? fun f => Text.lower f.name = Text.lower "Content-Length" with
  | none =>
    have hbody : m.body = [] := by
      refine h.undeclared fun f hf hd => ?_
      exact List.find?_eq_none.mp hfind f hf (decide_eq_true hd)
    rw [hbody]
    rfl
  | some f =>
    have hdeclares : f.DeclaresLength := by
      simpa [Field.DeclaresLength] using List.find?_some hfind
    have hvalue := h.declared f (List.mem_of_find?_eq_some hfind) hdeclares
    exact declaredLength_toString h.counted hvalue

/-! ## Requests -/

/-- A message is read as the lines of its head say, and as much of what follows them as they
declare. -/
theorem readRequest_lines (hlimit : limit + 1 < countBound)
    (hline : RequestLine.ofText m.requestLine.text = .ok ⟨m.method, m.target, m.version⟩)
    (hdelimited : ∀ line ∈ m.head, line.Delimited)
    (hshort : ∀ line ∈ m.head, line.content.length ≤ limit) {headers : Headers} {length : Nat}
    (hheaders : headers = .ofList (m.fields.filterMap (headerOf? ·.line.text)))
    (hlength : declaredLength (headers.get? "Content-Length") = .ok length)
    (hcounted : length < countBound) (client : Option Address) (rest : Bytes) :
    readRequest (limit : Int) client (Memory.mk (m.write ++ rest))
      = (.ok { method := m.method, target := m.target, version := m.version, headers
               body := (m.body ++ rest).take length, captures := [], client },
          ⟨(m.body ++ rest).drop length⟩) := by
  obtain ⟨hfirst, hmore⟩ := List.forall_mem_cons.mp hdelimited
  obtain ⟨hfirst', hmore'⟩ := List.forall_mem_cons.mp hshort
  have hbytes : m.write ++ rest = m.requestLine.bytes
      ++ ((headerLines m.fields m.blank).flatMap HeadLine.bytes ++ (m.body ++ rest)) := by
    simp [write, head]
  have hread := readRequestLine_of_text (read_delimited hlimit hfirst hfirst'
    ((headerLines m.fields m.blank).flatMap HeadLine.bytes ++ (m.body ++ rest)))
  rw [if_neg (ne_empty_of_ofText hline), hline] at hread
  have hpairs := readHeaders_of_ok (readPairs_lines hlimit hmore hmore' (m.body ++ rest) [])
  rw [List.reverse_nil, List.nil_append, ← hheaders] at hpairs
  rw [hbytes, readRequest_of_body hread hpairs hlength (readBody_memory hcounted (m.body ++ rest))]
  rfl

/-- **A written message is read as the request it stands for, up to its last byte.** -/
theorem readRequest_write (hlimit : limit + 1 < countBound) (h : m.WellFormed limit)
    (client : Option Address) (rest : Bytes) :
    readRequest (limit : Int) client (Memory.mk (m.write ++ rest))
      = (.ok (m.request client), ⟨rest⟩) := by
  have hdelimited : ∀ line ∈ m.head, line.Delimited :=
    List.forall_mem_cons.mpr ⟨(requestLine_inline h).delimited, forall_headerLines.mpr
      ⟨fun f hf => (Field.line_inline (h.fields f hf)).delimited, HeadLine.empty_delimited m.blank⟩⟩
  rw [readRequest_lines hlimit (ofText_requestLine h.token h.target.1 h.version.1) hdelimited
    h.short (congrArg Headers.ofList (headerOf?_fields h.fields).symm) (declaredLength_pairs h)
    h.counted, List.take_left, List.drop_left]
  rfl

end Message

/-! ## One request after the other -/

/-- Reads as many requests as are asked for, and tells for each what came of it and what was left
after it. -/
def readEach (limit : Int) (client : Option Address) :
    Nat → Memory → List (Except ParseError Request × Memory)
  | 0, _ => []
  | n + 1, s =>
    let (outcome, left) := readRequest limit client s
    (outcome, left) :: readEach limit client n left

/-- For each message the request that it stands for, and the bytes that begin with the next one. -/
def Message.requestsThenRest (client : Option Address) (rest : Bytes) :
    List Message → List (Except ParseError Request × Memory)
  | [] => []
  | m :: ms => (.ok (m.request client), ⟨writeAll ms ++ rest⟩) :: requestsThenRest client rest ms

/-- **Reading undoes writing, message by message.** Every read gives the request that was written,
its headers with the same names and values in the same order, and leaves the bytes from the next
message on. -/
theorem readEach_writeAll {limit : Nat} (hlimit : limit + 1 < countBound)
    (client : Option Address) {ms : List Message} (hwell : ∀ m ∈ ms, m.WellFormed limit)
    (rest : Bytes) :
    readEach (limit : Int) client ms.length (Memory.mk (Message.writeAll ms ++ rest))
        = Message.requestsThenRest client rest ms
      ∧ ∀ m ∈ ms, (m.request client).headers.toList = m.pairs := by
  constructor
  · induction ms with
    | nil => rfl
    | cons m ms ih =>
      have hread := Message.readRequest_write hlimit (hwell m List.mem_cons_self) client
        (Message.writeAll ms ++ rest)
      rw [Message.writeAll, List.flatMap_cons, List.append_assoc, ← Message.writeAll,
        List.length_cons, readEach, hread]
      simp only [Message.requestsThenRest]
      rw [ih fun n hn => hwell n (List.mem_cons_of_mem _ hn)]
  · intro m hm
    exact Headers.toList_ofList (Message.keysOf_pairs (hwell m hm))

/-- A message whose body looks like another message, with a plus before the length, a method in
mixed casing and lines that end both ways. -/
def nested : Message where
  method := .post
  token := "pOSt"
  target := "/é?q=1"
  version := "HTTP/1.1"
  ending := .lf
  fields := [⟨"Host", "a: b", .crlf⟩, ⟨"CONTENT-length", "+22", .lf⟩, ⟨"X-Empty", "", .crlf⟩]
  blank := .crlf
  body := utf8 "\r\n\r\nGET / HTTP/1.1\r\n\r\n"

/-- A message without headers and without a body. -/
def bare : Message where
  method := .get
  token := "GET"
  target := "/"
  version := "HTTP/1.1"
  ending := .crlf
  fields := []
  blank := .crlf
  body := []

theorem readEach_nested_bare :
    64 + 1 < countBound ∧ (∀ m ∈ [nested, bare], m.WellFormed 64)
      ∧ readEach ((64 : Nat) : Int) none 2
            (Memory.mk (Message.writeAll [nested, bare] ++ utf8 "GET"))
          = Message.requestsThenRest none (utf8 "GET") [nested, bare]
      ∧ ∀ m ∈ [nested, bare], (m.request none).headers.toList = m.pairs := by
  have hlimit : 64 + 1 < countBound := by decide
  have hwell : ∀ m ∈ [nested, bare], m.WellFormed 64 := by decide
  exact ⟨hlimit, hwell, readEach_writeAll hlimit none hwell (utf8 "GET")⟩

/-- The greatest count is no limit: one more cannot be counted, so that not even the shortest
message is read back. -/
theorem readEach_greatest_count :
    (∀ m ∈ [bare], m.WellFormed (countBound - 1))
      ∧ readEach ((countBound - 1 : Nat) : Int) none 1 (Memory.mk (Message.writeAll [bare] ++ []))
          ≠ Message.requestsThenRest none [] [bare] := by
  refine ⟨by decide, fun h => ?_⟩
  have hbound : countBound ≤ countBound - 1 + 1 := by decide
  have hfails : (readRequest ((countBound - 1 : Nat) : Int) none
      (Memory.mk (Message.writeAll [bare] ++ []))).1 = .error (.read .countTooLarge) :=
    readRequest_of_lineError (readRequestLine_of_failed (read_of_countBound_le hbound _))
  rw [readEach, Message.requestsThenRest, List.cons.injEq, Prod.mk.injEq] at h
  rw [h.1.1] at hfails
  simp at hfails

end HttpKit.Wire
