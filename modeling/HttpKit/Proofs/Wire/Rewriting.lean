import HttpKit.Proofs.Headers.OrderedMap
import HttpKit.Proofs.Path
import HttpKit.Proofs.Text.Casing
import HttpKit.Proofs.Wire.Grammar
import HttpKit.Proofs.Wire.RoundTrip

/-!
# Writing what was read

A request that was read, from whatever bytes, is written as a message again: with the name of its
method, single blanks, one line for each header, and lines that end in both characters. What is read
from that message is the request, but for a header without a name. Such a header is read from a line
with nothing but blanks before its first colon; in the message that colon is the first character of
its line, and the line is passed over.

## How the argument goes

* a line that is read holds no line feed (`newline_not_mem_lineOf`), so that it does not end too
  early when it is written; it may hold carriage returns, but none of them comes last
* words, names and values are cut out of lines in such a way that cutting them out again leaves them
  as they are (`isHeader_of_field?`, `isRead_of_requestOf`)
* the headers are read back one by one (`headerOf?_ofPair`), and without the nameless one they
  declare the same length (`get?_without`); the body is no longer than that

`requestOf_write` puts this together.
-/

namespace HttpKit

namespace Headers

/-- Without the nameless header all others are left. -/
theorem toList_without_empty (hs : Headers) :
    (hs.without [""]).toList = hs.toList.filter (·.1 ≠ "") := by
  rw [toList_without]
  refine List.filter_congr fun e _ => ?_
  have hempty : Text.lower "" = "" := Text.lower_eq_empty_iff.mpr rfl
  simp [SameName, hempty, Text.lower_eq_empty_iff]

/-- What is left out does not matter to other names. -/
theorem get?_without (hs : Headers) {names : List String} {name : String}
    (h : ∀ other ∈ names, Text.lower other ≠ Text.lower name) :
    (hs.without names).get? name = hs.get? name := by
  have hkey : Text.lower name ∉ names.map Text.lower := by simpa using h
  show ((hs.entries.filter fun h => !(names.map Text.lower).contains h.key).find? _).map _ = _
  rw [List.find?_filter]
  refine congrArg (fun p => (hs.entries.find? p).map Header.value) (funext fun h => ?_)
  by_cases hh : h.key = Text.lower name
  · simp [hh, List.contains_eq_mem, hkey]
  · simp [hh]

theorem names_eq_map_toList (hs : Headers) : hs.names = hs.toList.map Prod.fst := by
  rw [names, toList, List.map_map]
  rfl

theorem without_empty_eq_iff (hs : Headers) : hs.without [""] = hs ↔ "" ∉ hs.names := by
  have heq : hs.without [""] = hs ↔ (hs.without [""]).toList = hs.toList :=
    ⟨congrArg toList, fun h => by rw [← ofList_toList (hs.without [""]), h, ofList_toList]⟩
  rw [heq, toList_without_empty, List.filter_eq_self, names_eq_map_toList]
  simp only [List.mem_map, decide_eq_true_eq, not_exists, not_and]

end Headers

namespace Wire

/-! ## Requests as messages -/

/-- A header on a line of its own. -/
def Field.ofPair (pair : String × String) : Field := ⟨pair.1, pair.2, .crlf⟩

/-- A request as the message to be written. -/
def Message.ofRequest (r : Request) : Message where
  method := r.method
  token := r.method.name
  target := r.target
  version := r.version
  ending := .crlf
  fields := r.headers.toList.map Field.ofPair
  blank := .crlf
  body := r.body

/-! ## What is known of what was read -/

/-- What holds of a header that was read. -/
structure IsHeader (pair : String × String) : Prop where
  name_trimmed : Text.trim pair.1 = pair.1
  name_uncut : ':' ∉ pair.1.toList
  name_line : '\n' ∉ pair.1.toList
  value_trimmed : Text.trim pair.2 = pair.2
  value_line : '\n' ∉ pair.2.toList

/-- What holds of a request that was read. -/
structure IsRead (client : Option Address) (r : Request) : Prop where
  target_word : ' ' ∉ r.target.toList
  target_line : '\n' ∉ r.target.toList
  version_word : ' ' ∉ r.version.toList
  version_line : '\n' ∉ r.version.toList
  headers : ∀ pair ∈ r.headers.toList, IsHeader pair
  /-- The body may be shorter than declared, but it is not longer. -/
  body : ∃ length, r.contentLength = .ok length ∧ length < countBound ∧ r.body.length ≤ length
  captures : r.captures = []
  client : r.client = client

/-- A line that was read holds no line feed. -/
theorem newline_not_mem_lineOf {bytes piece : Bytes} (h : piece ∈ pieces bytes) :
    '\n' ∉ (lineOf piece).toList := by
  have hunfed := lineFeed_not_mem_unfed rfl piece h
  refine not_mem_ofUtf8 (by decide) (by decide) fun hm => hunfed ?_
  show lineFeed ∈ unfed piece
  split at hm
  · exact List.mem_of_mem_dropLast hm
  · exact hm

/-- A word of a line holds no blank, and nothing that the line does not hold. -/
theorem mem_of_mem_words {line word : String} (h : word ∈ words line) {c : Char}
    (hc : c ∈ word.toList) : c ≠ ' ' ∧ c ∈ line.toList := by
  rw [words, ← Text.pieces_eq_splitOn] at h
  obtain ⟨piece, hpiece, rfl⟩ := List.mem_map.mp h
  rw [String.toList_ofList] at hc
  exact Text.mem_of_mem_pieces hpiece c hc

theorem mem_words_of_requestLine? {text : String} {line : RequestLine}
    (h : requestLine? text = some line) : line.target ∈ words text ∧ line.version ∈ words text := by
  unfold requestLine? at h
  split at h
  · next token target version more hw =>
    obtain ⟨method, -, rfl⟩ := Option.map_eq_some_iff.mp h
    rw [hw]
    exact ⟨by simp, by simp⟩
  · simp at h

/-- A header is cut out of its line before and after the first colon. -/
theorem isHeader_of_field? {line : String} (hline : '\n' ∉ line.toList) {pair : String × String}
    (h : field? line = some pair) : IsHeader pair := by
  rw [← headerOf?_eq_field?] at h
  by_cases hm : ':' ∈ line.toList
  · obtain ⟨name, value, hl, hn⟩ := List.eq_append_cons_of_mem hm
    rw [hl, List.mem_append, List.mem_cons, not_or, not_or] at hline
    rw [headerOf?, hl, Text.cut_append_cons hn] at h
    dsimp only at h
    split at h
    · simp at h
    · obtain rfl := Option.some.inj h
      have hmem : ∀ {c cs}, c ∈ (String.ofList (Text.trimBy Text.isBlank cs)).toList → c ∈ cs :=
        fun hc => Text.mem_of_mem_trimBy (String.toList_ofList ▸ hc)
      exact {
        name_trimmed := Text.trim_ofList_trimBy name
        name_uncut := fun hc => hn (hmem hc)
        name_line := fun hc => hline.1 (hmem hc)
        value_trimmed := Text.trim_ofList_trimBy value
        value_line := fun hc => hline.2.2 (hmem hc) }
  · rw [headerOf?, Text.cut_of_not_mem hm] at h
    simp at h

/-- Target, version and headers come from lines, and the body is cut off at the length declared. -/
theorem isRead_requestOn {line : RequestLine} {length : Nat} {bytes : Bytes}
    (hline : (firstLine? bytes).bind requestLine? = some line)
    (hlength : declaredLength ((headersOf bytes).get? "Content-Length") = .ok length)
    (hcounted : length < countBound) (client : Option Address) :
    IsRead client (requestOn line length client bytes) := by
  obtain ⟨first, hfirst, hwords⟩ := Option.bind_eq_some_iff.mp hline
  have hfirstLine : '\n' ∉ first.toList := by
    obtain ⟨piece, hpiece, rfl⟩ := Option.map_eq_some_iff.mp hfirst
    exact newline_not_mem_lineOf (List.mem_of_mem_head? hpiece)
  obtain ⟨htarget, hversion⟩ := mem_words_of_requestLine? hwords
  exact {
    target_word := fun hc => (mem_of_mem_words htarget hc).1 rfl
    target_line := fun hc => hfirstLine (mem_of_mem_words htarget hc).2
    version_word := fun hc => (mem_of_mem_words hversion hc).1 rfl
    version_line := fun hc => hfirstLine (mem_of_mem_words hversion hc).2
    headers := fun pair hpair => by
      obtain ⟨text, htext, hfield⟩ :=
        List.mem_filterMap.mp (Headers.mem_of_mem_toList_ofList hpair)
      obtain ⟨piece, hpiece, rfl⟩ := List.mem_map.mp ((List.takeWhile_prefix _).subset htext)
      exact isHeader_of_field? (newline_not_mem_lineOf (List.mem_of_mem_tail hpiece)) hfield
    body := ⟨length, hlength, hcounted, by
      rw [requestOn, List.length_take]
      exact Nat.min_le_left _ _⟩
    captures := rfl
    client := rfl }

/-- **Every request that is read is cut out of lines.** -/
theorem isRead_of_requestOf {bytes : Bytes} {client : Option Address} {r : Request}
    (h : requestOf bytes client = .ok r) : IsRead client r := by
  have hlimit : 64 * 1024 + 1 < countBound := by decide
  have hdefault : defaultLineLimit = ((64 * 1024 : Nat) : Int) := by decide
  rw [requestOf, hdefault] at h
  rcases readRequest_cases hlimit client bytes with ⟨-, cause, hc⟩ | ⟨-, line, hline, hout⟩
  · rw [hc] at h
    simp at h
  rw [hout, outcomeOn] at h
  split at h
  · simp at h
  · next length hlength =>
    split at h
    · next hcounted =>
      obtain rfl := Except.ok.inj h
      exact isRead_requestOn hline hlength hcounted client
    · simp at h

/-! ## Reading what was written -/

theorem map_toUpper_name (m : Method) : m.name.toList.map Char.toUpper = m.name.toList := by
  cases m <;> decide

theorem headerOf?_ofPair {pair : String × String} (h : IsHeader pair) :
    headerOf? (Field.ofPair pair).line.text = if pair.1 = "" then none else some pair :=
  Field.headerOf?_line_eq h.name_trimmed h.name_uncut h.value_trimmed

theorem filterMap_ofPair {r : Request} (h : ∀ pair ∈ r.headers.toList, IsHeader pair) :
    (Message.ofRequest r).fields.filterMap (headerOf? ·.line.text)
      = (r.headers.without [""]).toList := by
  rw [Headers.toList_without_empty, Message.ofRequest, List.filterMap_map,
    ← List.filterMap_eq_filter]
  refine List.filterMap_congr fun pair hpair => ?_
  rw [Function.comp_apply, headerOf?_ofPair (h pair hpair)]
  by_cases hname : pair.1 = "" <;> simp [hname, Option.guard]

/-- What was cut out of lines fits on lines. -/
theorem delimited_ofRequest {client : Option Address} {r : Request} (h : IsRead client r) :
    ∀ line ∈ (Message.ofRequest r).head, line.Delimited := by
  refine List.forall_mem_cons.mpr ⟨⟨?_, nofun⟩, forall_headerLines.mpr
    ⟨List.forall_mem_map.mpr fun pair hpair => ⟨?_, nofun⟩, HeadLine.empty_delimited .crlf⟩⟩
  · obtain ⟨-, -, hname⟩ := token_oneWord (map_toUpper_name r.method)
    simp [Message.requestLine, Message.ofRequest, hname, h.target_line, h.version_line]
  · obtain ⟨-, -, hname, -, hvalue⟩ := h.headers pair hpair
    simp [Field.ofPair, Field.line, hname, hvalue]

/-- A request that is cut out of lines is read again from the lines it is written in. -/
theorem IsRead.requestOf_ofRequest {client : Option Address} {r : Request} (h : IsRead client r)
    (hshort : ∀ line ∈ (Message.ofRequest r).head,
      (line.content.length : Int) ≤ defaultLineLimit) :
    requestOf (Message.ofRequest r).write client
      = .ok { r with headers := r.headers.without [""] } := by
  have hlimit : 64 * 1024 + 1 < countBound := by decide
  have hdefault : defaultLineLimit = ((64 * 1024 : Nat) : Int) := by decide
  have hshort' : ∀ line ∈ (Message.ofRequest r).head, line.content.length ≤ 64 * 1024 :=
    fun line hl => Int.ofNat_le.mp (hdefault ▸ hshort line hl)
  obtain ⟨length, hlength, hcounted, hbody⟩ := h.body
  have hheaders : r.headers.without [""]
      = .ofList ((Message.ofRequest r).fields.filterMap (headerOf? ·.line.text)) := by
    rw [filterMap_ofPair h.headers, Headers.ofList_toList]
  have hlength' : declaredLength ((r.headers.without [""]).get? "Content-Length") = .ok length := by
    rw [Headers.get?_without _ (by decide)]
    exact hlength
  have hline : RequestLine.ofText (Message.ofRequest r).requestLine.text
      = .ok ⟨r.method, r.target, r.version⟩ :=
    Message.ofText_requestLine (map_toUpper_name r.method) h.target_word h.version_word
  have hread := Message.readRequest_lines hlimit hline (delimited_ofRequest h) hshort' hheaders
    hlength' hcounted client []
  rw [List.append_nil, List.append_nil] at hread
  have hwhole : (Message.ofRequest r).body.take length = r.body := List.take_of_length_le hbody
  rw [requestOf, hdefault, hread, hwhole, h.captures, h.client]
  rfl

/-- **A request that was read is read again from what it is written as, but for a header without a
name.** The bytes that it was read from may be any: the lines of the message must only keep to the
limit. The same request comes back if and only if all its headers have names. -/
theorem requestOf_write {bytes : Bytes} {client : Option Address} {r : Request}
    (h : requestOf bytes client = .ok r)
    (hshort : ∀ line ∈ (Message.ofRequest r).head,
      (line.content.length : Int) ≤ defaultLineLimit) :
    requestOf (Message.ofRequest r).write client
        = .ok { r with headers := r.headers.without [""] }
      ∧ (requestOf (Message.ofRequest r).write client = .ok r ↔ "" ∉ r.headers.names) := by
  have hread := (isRead_of_requestOf h).requestOf_ofRequest hshort
  refine ⟨hread, ?_⟩
  rw [hread, Except.ok.injEq, ← Headers.without_empty_eq_iff]
  exact ⟨fun heq => congrArg Request.headers heq, fun heq => by rw [heq]⟩

/-- A message with a header line that begins with blanks and a colon, a carriage return too many
after the version, and less of a body than it declares. -/
def spaced : Message where
  method := .post
  token := "Post"
  target := "/"
  version := "HTTP/1.1\r"
  ending := .crlf
  fields := [⟨"  ", "v", .crlf⟩, ⟨"Content-Length", " 3 ", .lf⟩]
  blank := .lf
  body := utf8 "ab"

/-- The request that it is read as. -/
def spacedRequest : Request where
  method := .post
  target := "/"
  version := "HTTP/1.1\r"
  headers := .ofList [("", "v"), ("Content-Length", "3")]
  body := utf8 "ab"
  captures := []
  client := none

theorem requestOf_spaced : requestOf spaced.write none = .ok spacedRequest := by
  have hlimit : 64 * 1024 + 1 < countBound := by decide
  have hdefault : defaultLineLimit = ((64 * 1024 : Nat) : Int) := by decide
  have hlength : declaredLength (spacedRequest.headers.get? "Content-Length") = .ok 3 := by decide
  have hread := Message.readRequest_lines (m := spaced) hlimit rfl (by decide) (by decide) rfl
    hlength (by decide) none []
  rw [List.append_nil, ← hdefault] at hread
  rw [requestOf, hread]
  rfl

theorem requestOf_write_spaced :
    requestOf spaced.write none = .ok spacedRequest
      ∧ (∀ line ∈ (Message.ofRequest spacedRequest).head,
        (line.content.length : Int) ≤ defaultLineLimit)
      ∧ requestOf (Message.ofRequest spacedRequest).write none
          = .ok { spacedRequest with headers := spacedRequest.headers.without [""] }
      ∧ (requestOf (Message.ofRequest spacedRequest).write none = .ok spacedRequest
          ↔ "" ∉ spacedRequest.headers.names) := by
  have hshort : ∀ line ∈ (Message.ofRequest spacedRequest).head,
      (line.content.length : Int) ≤ defaultLineLimit := by decide
  exact ⟨requestOf_spaced, hshort, requestOf_write requestOf_spaced hshort⟩

/-- A request may have a header that no line can carry. -/
theorem not_readBack_spaced :
    requestOf spaced.write none = .ok spacedRequest
      ∧ (∀ line ∈ (Message.ofRequest spacedRequest).head,
        (line.content.length : Int) ≤ defaultLineLimit)
      ∧ requestOf (Message.ofRequest spacedRequest).write none ≠ .ok spacedRequest := by
  have hshort : ∀ line ∈ (Message.ofRequest spacedRequest).head,
      (line.content.length : Int) ≤ defaultLineLimit := by decide
  refine ⟨requestOf_spaced, hshort, fun hsame => ?_⟩
  rw [(isRead_of_requestOf requestOf_spaced).requestOf_ofRequest hshort, Except.ok.injEq] at hsame
  have hnameless : "" ∉ spacedRequest.headers.names :=
    (Headers.without_empty_eq_iff _).mp (congrArg Request.headers hsame)
  exact hnameless (by decide)

end Wire

end HttpKit
