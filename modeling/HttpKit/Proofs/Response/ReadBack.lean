import HttpKit.Proofs.Response.Head
import HttpKit.Proofs.Wire.RoundTrip

/-!
# Reading a response back

The lines of a head are read by the same functions whether it is that of a request or of a
response. So a response whose texts keep to their lines, and have bytes at all, is read back as its
status line, the headers that were written, and its body, whatever is in the body.

## How the argument goes

* texts that UTF-8 can encode are texts of characters, and what they say of their lines they say as
  such (`headerWellFormed_pair_iff`)
* no header that is written can be taken for another line (`headerWellFormed_of_mem`): those of the
  response by assumption, and those that are added because they are decimal digits and fixed texts
* the lines are read one after the other as in a request (`HttpKit.Proofs.Wire.RoundTrip`), and the
  empty one ends them
* what is read are the headers written, as no name occurs twice among them
-/

namespace HttpKit

/-! ## Texts in their lines -/

/-- Whether a text does not end the line it stands in. -/
def RawText.Inline (t : RawText) : Prop :=
  .char '\r' ∉ t.points ∧ .char '\n' ∉ t.points

instance (t : RawText) : Decidable t.Inline := inferInstanceAs (Decidable (_ ∧ _))

theorem RawText.inline_ofString_iff {s : String} :
    (RawText.ofString s).Inline ↔ Wire.Inline s := by
  rw [RawText.Inline, RawText.char_mem_ofString, RawText.char_mem_ofString, Wire.Inline]

namespace Response

open Wire (HeadLine)

/-- A name and a value whose line says what they are. -/
@[mk_iff]
structure HeaderWellFormed (p : RawText × RawText) : Prop where
  name_nonempty : p.1.isEmpty = false
  name_trimmed : p.1.trim = p.1
  name_inline : p.1.Inline
  name_uncut : .char ':' ∉ p.1.points
  value_trimmed : p.2.trim = p.2
  value_inline : p.2.Inline

instance (p : RawText × RawText) : Decidable (HeaderWellFormed p) :=
  decidable_of_iff' _ (headerWellFormed_iff p)

/-- Responses whose texts keep to their lines, with no line of the head beyond the limit. A limit
counts the carriage return before the line feed. -/
@[mk_iff]
structure WellFormed (r : Response) : Prop where
  reason_inline : r.reason.Inline
  headers : ∀ p ∈ r.headers.toList, HeaderWellFormed p
  short : ∀ text ∈ r.texts, ((text.bytes?.getD []).length + 1 : Int) ≤ defaultLineLimit

instance (r : Response) : Decidable r.WellFormed := decidable_of_iff' _ (wellFormed_iff r)

/-- A header as it is written. -/
def fieldOf (p : String × String) : Wire.Field := ⟨p.1, p.2, .crlf⟩

theorem headerWellFormed_pair_iff {p : String × String} :
    HeaderWellFormed (RawText.pair p) ↔ (fieldOf p).WellFormed := by
  have hempty : (RawText.ofString p.1).isEmpty = false ↔ p.1 ≠ "" := by
    simp [RawText.isEmpty, RawText.ofString]
  rw [headerWellFormed_iff, Wire.Field.wellFormed_iff, RawText.pair, RawText.trim_ofString,
    RawText.trim_ofString, RawText.inline_ofString_iff, RawText.inline_ofString_iff,
    RawText.char_mem_ofString, RawText.ofString_injective.eq_iff,
    RawText.ofString_injective.eq_iff, hempty]
  exact Iff.rfl

variable {r : Response}

/-! ## What is written -/

theorem statusLine_inline (h : r.WellFormed) : r.statusLine.Inline := by
  have hfixed : (RawText.ofString ("HTTP/1.1 " ++ toString r.status ++ " ")).Inline := by
    rw [RawText.inline_ofString_iff]
    have hstatus : ∀ {c : Char}, c.isDigit = false → c ≠ '-' → c ∉ (toString r.status).toList :=
      fun hc hm => Numeral.not_mem_toString_int hc hm r.status
    have hsr : '\r' ∉ (toString r.status).toList := hstatus (by decide) (by decide)
    have hsn : '\n' ∉ (toString r.status).toList := hstatus (by decide) (by decide)
    constructor <;>
      simp only [String.toList_append, List.mem_append, not_or, *, not_false_eq_true,
        and_true] <;> decide
  obtain ⟨hr, hn⟩ := h.reason_inline
  rw [statusLine_eq]
  constructor <;> rw [RawText.points_append, List.mem_append, not_or]
  · exact ⟨hfixed.1, hr⟩
  · exact ⟨hfixed.2, hn⟩

theorem lengthField_wellFormed (n : Nat) :
    (fieldOf ("Content-Length", toString n)).WellFormed where
  name_nonempty := show "Content-Length" ≠ "" by decide
  name_trimmed := show Text.trim "Content-Length" = "Content-Length" by decide
  name_inline := show Wire.Inline "Content-Length" by decide
  name_uncut := show ':' ∉ "Content-Length".toList by decide
  value_trimmed := Numeral.trim_toString n
  value_inline :=
    ⟨Numeral.not_mem_toString (by decide) n, Numeral.not_mem_toString (by decide) n⟩

/-- **No header that is written can be taken for another line.** -/
theorem headerWellFormed_of_mem (h : r.WellFormed) :
    ∀ p ∈ r.closingHeaders.toList, HeaderWellFormed p := by
  intro p hp
  rcases mem_closingHeaders.mp hp with rfl | ⟨hp | ⟨hp, _⟩, _⟩
  · decide
  · exact h.headers p hp
  · simp only [defaultHeaders, List.mem_cons, List.not_mem_nil, or_false] at hp
    rcases hp with rfl | rfl
    · exact headerWellFormed_pair_iff.mpr (lengthField_wellFormed _)
    · decide

/-- The texts of the head are the status line and the lines of some headers. -/
theorem exists_texts_eq (h : r.Encodable) :
    ∃ (line : String) (pairs : List (String × String)), r.statusLine = line
      ∧ r.closingHeaders.toList = pairs.map RawText.pair
      ∧ r.texts = (line :: pairs.map fun p => (fieldOf p).line.text).map RawText.ofString := by
  have htexts := encodable_texts_iff.mpr h
  rw [texts, List.forall_mem_cons, List.forall_mem_map] at htexts
  obtain ⟨line, hline⟩ := RawText.exists_ofString htexts.1
  obtain ⟨pairs, hpairs⟩ := RawText.exists_map_pair fun p hp =>
    encodable_headerLine.mp (htexts.2 p hp)
  refine ⟨line, pairs, hline, hpairs, ?_⟩
  rw [texts, hline, hpairs, List.map_cons, List.map_map, List.map_map]
  refine congrArg _ (List.map_congr_left fun p _ => ?_)
  show RawText.ofString p.1 ++ ": " ++ RawText.ofString p.2
    = RawText.ofString (p.1 ++ ": " ++ p.2)
  rw [RawText.ofString_append, RawText.ofString_append]

theorem utf8_line (text : String) : utf8 (text ++ "\r\n") = (HeadLine.mk text .crlf).bytes := by
  rw [utf8_append, HeadLine.bytes, HeadLine.content, List.append_assoc]
  rfl

/-- The bytes of a head, line by line. -/
theorem flatMap_lines (line : String) (pairs : List (String × String)) :
    (line :: pairs.map fun p => (fieldOf p).line.text).flatMap (fun text => utf8 (text ++ "\r\n"))
        ++ utf8 "\r\n"
      = (HeadLine.mk line .crlf).bytes
        ++ (Wire.headerLines (pairs.map fieldOf) .crlf).flatMap HeadLine.bytes := by
  have hempty : utf8 "\r\n" = (HeadLine.empty .crlf).bytes := utf8_line ""
  rw [List.flatMap_cons, List.flatMap_map, utf8_line, hempty, Wire.headerLines, List.map_map,
    List.flatMap_append, List.flatMap_map, List.flatMap_singleton, List.append_assoc]
  refine congrArg (_ ++ ·) (congrArg (· ++ _) (List.flatMap_congr fun p _ => ?_))
  exact utf8_line _

/-! ## What is read -/

/-- Of headers that are written alike, the values are found under the same names. -/
theorem valuesOf_map_pair {hs : Headers} {written : Headers RawText}
    (h : written.toList = hs.toList.map RawText.pair) (name : String) :
    (hs.valuesOf name).map RawText.ofString = written.valuesOf name := by
  rw [Headers.valuesOf, Headers.valuesOf, h, List.filter_map, List.map_map, List.map_map]
  refine congrArg (List.map _) (List.filter_congr fun p _ => ?_)
  exact (decide_eq_decide.mpr RawText.lower_ofString_eq_iff).symm

theorem nodup_keysOf_of_map_pair {pairs : List (String × String)} {written : Headers RawText}
    (h : written.toList = pairs.map RawText.pair) : (Headers.keysOf pairs).Nodup := by
  have hkeys : Headers.keysOf written.toList
      = (Headers.keysOf pairs).map RawText.ofString := by
    rw [h, Headers.keysOf, Headers.keysOf, List.map_map, List.map_map]
    exact List.map_congr_left fun p _ => RawText.lower_ofString p.1
  exact (hkeys ▸ written.nodup_keysOf_toList).of_map _

/-- **A response is read back as it was written.** Where UTF-8 can encode its texts there are bytes
of it. After the status line the headers read from them are those that the response has, with the
defaults that it has not and with the connection closed, under the names they were written with and
in order, and what is left after them is the body. Whatever the casing, there is one header that
closes the connection, one for the type of the content and one for its length, which is the one the
response has or else the length of the body. -/
theorem read_toBytes (h : r.WellFormed) (he : r.Encodable) :
    ∃ (bytes : Bytes) (line : String) (rest : Memory) (hs : Headers),
      r.toBytes? = some bytes
      ∧ Line.read defaultLineLimit (Memory.mk bytes) = (.text line, rest)
      ∧ r.statusLine = line
      ∧ Wire.readHeaders defaultLineLimit rest = (.ok hs, ⟨r.body⟩)
      ∧ (r.effectiveHeaders.insert "Connection" "close").toList = hs.toList.map RawText.pair
      ∧ hs.valuesOf "Connection" = ["close"]
      ∧ (hs.valuesOf "Content-Type").map RawText.ofString
          = [(r.headers.get? "Content-Type").getD defaultContentType]
      ∧ (hs.valuesOf "Content-Length").map RawText.ofString
          = [(r.headers.get? "Content-Length").getD (toString r.body.length)] := by
  obtain ⟨line, pairs, hline, hpairs, htexts⟩ := exists_texts_eq he
  have hdefault : defaultLineLimit = ((64 * 1024 : Nat) : Int) := by decide
  have hlimit : 64 * 1024 + 1 < countBound := by decide
  have hshort : ∀ text ∈ line :: pairs.map fun p => (fieldOf p).line.text,
      (HeadLine.mk text .crlf).content.length ≤ 64 * 1024 := by
    intro text htext
    have hle := h.short (RawText.ofString text) (htexts ▸ List.mem_map_of_mem htext)
    rw [RawText.bytes?_ofString, Option.getD_some, hdefault] at hle
    exact Int.ofNat_le.mp (by simpa [HeadLine.content, Wire.LineEnd.lead] using hle)
  have hinline : Wire.Inline (Wire.HeadLine.mk line .crlf).text :=
    RawText.inline_ofString_iff.mp (hline ▸ statusLine_inline h)
  have hfields : ∀ f ∈ pairs.map fieldOf, f.WellFormed := by
    simp only [List.forall_mem_map]
    exact fun p hp => headerWellFormed_pair_iff.mp
      (headerWellFormed_of_mem h _ (hpairs ▸ List.mem_map_of_mem hp))
  have hfieldsShort : ∀ f ∈ pairs.map fieldOf, f.line.content.length ≤ 64 * 1024 := by
    simp only [List.forall_mem_map]
    exact fun p hp => hshort _ (List.mem_cons_of_mem _ (List.mem_map_of_mem hp))
  have hblank : (HeadLine.empty .crlf).content.length ≤ 64 * 1024 := by decide
  have hread := Wire.read_headLine hlimit hinline
    (hshort line List.mem_cons_self)
    ((Wire.headerLines (pairs.map fieldOf) .crlf).flatMap HeadLine.bytes ++ r.body)
  have hheaders := Wire.readHeaders_of_ok
    (Wire.readPairs_fields hlimit hfields hfieldsShort hblank r.body [])
  have hfound : (pairs.map fieldOf).map Wire.Field.pair = pairs := by
    rw [List.map_map]
    exact List.map_id pairs
  rw [List.reverse_nil, List.nil_append, hfound, ← hdefault] at hheaders
  rw [← List.append_assoc, ← flatMap_lines, ← hdefault] at hread
  have hwritten : r.closingHeaders.toList = (Headers.ofList pairs).toList.map RawText.pair := by
    rw [Headers.toList_ofList (nodup_keysOf_of_map_pair hpairs), hpairs]
  refine ⟨_, line, _, .ofList pairs, toBytes?_eq_some_iff.mpr ⟨_, htexts, rfl⟩, hread, hline,
    hheaders, hwritten, ?_, ?_, ?_⟩
  · have hvalues := (valuesOf_map_pair hwritten "Connection").trans r.valuesOf_connection
    exact List.map_injective_iff.mpr RawText.ofString_injective hvalues
  · exact (valuesOf_map_pair hwritten _).trans r.valuesOf_contentType
  · exact (valuesOf_map_pair hwritten _).trans r.valuesOf_contentLength

/-- A response that would keep the connection, in a casing of its own, and whose body looks like the
end of a head and another response. -/
def persistent : Response where
  status := 299
  reason := ""
  headers := .ofList [("X-Empty", ""), ("cONNECTION", "keep-alive"), ("content-TYPE", "é: b")]
  body := utf8 "\r\n\r\nHTTP/1.1 200 OK\r\n\r\n"

theorem read_persistent :
    persistent.WellFormed ∧ persistent.Encodable ∧
    ∃ (bytes : Bytes) (line : String) (rest : Memory) (hs : Headers),
      persistent.toBytes? = some bytes
      ∧ Line.read defaultLineLimit (Memory.mk bytes) = (.text line, rest)
      ∧ persistent.statusLine = line
      ∧ Wire.readHeaders defaultLineLimit rest = (.ok hs, ⟨persistent.body⟩)
      ∧ (persistent.effectiveHeaders.insert "Connection" "close").toList
          = hs.toList.map RawText.pair
      ∧ hs.valuesOf "Connection" = ["close"]
      ∧ (hs.valuesOf "Content-Type").map RawText.ofString
          = [(persistent.headers.get? "Content-Type").getD defaultContentType]
      ∧ (hs.valuesOf "Content-Length").map RawText.ofString
          = [(persistent.headers.get? "Content-Length").getD
              (toString persistent.body.length)] := by
  have hwell : persistent.WellFormed := by decide
  have hencodable : persistent.Encodable := by decide
  exact ⟨hwell, hencodable, read_toBytes hwell hencodable⟩

/-- A place that holds half of a pair. -/
def halfPlace : Response := .of 201 (.ofList [("Location", ⟨[.char '/', .surrogate (.last _)]⟩)]) []

/-- A text may keep to its line and have no bytes: then there is nothing to read back. -/
theorem toBytes?_halfPlace : halfPlace.WellFormed ∧ halfPlace.toBytes? = none := by
  refine ⟨by decide, toBytes?_eq_none_iff.mpr ?_⟩
  decide

end Response

end HttpKit
