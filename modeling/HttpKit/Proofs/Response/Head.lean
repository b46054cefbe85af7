import HttpKit.Proofs.Bytes.Utf8
import HttpKit.Proofs.DeclaredLength
import HttpKit.Proofs.Headers
import HttpKit.Proofs.Text.Raw
import HttpKit.Response

/-!
# The head of a response

A response is written as the texts of its head, each of them ended by a line break, an empty line
and its body (`toBytes?_eq_some_iff`). The first text is the status line, and then there is one for
every header: those that the response has, with length and type of the content where they are
absent, and with the connection closed (`mem_closingHeaders`).

There are bytes of a response exactly where UTF-8 can encode its texts (`toBytes?_eq_none_iff`): its
reason, and the names and values of its headers but for the one that is replaced as the connection
is closed.
-/

namespace HttpKit.Response

variable {r : Response}

/-! ## Headers -/

/-- The headers that are added unless they are there. -/
def defaultHeaders (r : Response) : List (RawText × RawText) :=
  [("Content-Length", toString r.body.length), ("Content-Type", defaultContentType)]

theorem effectiveHeaders_eq (r : Response) :
    r.effectiveHeaders = r.headers.withDefaults r.defaultHeaders := rfl

theorem keysOf_defaultHeaders (r : Response) : (Headers.keysOf r.defaultHeaders).Nodup := by
  show [Text.lower (RawText.ofString "Content-Length"),
    Text.lower (RawText.ofString "Content-Type")].Nodup
  decide

/-- The headers written are the one that closes the connection, those of the response, and the
defaults that it has not. -/
theorem mem_closingHeaders {p : RawText × RawText} :
    p ∈ r.closingHeaders.toList
      ↔ p = (RawText.ofString "Connection", RawText.ofString "close")
        ∨ (p ∈ r.headers.toList ∨ p ∈ r.defaultHeaders ∧ r.headers.contains p.1 = false)
          ∧ ¬SameName p.1 "Connection" := by
  rw [closingHeaders, Headers.mem_toList_insert, effectiveHeaders_eq,
    Headers.mem_toList_withDefaults r.keysOf_defaultHeaders]

/-! ## Texts and bytes -/

/-- The status line and the lines of the headers. -/
def texts (r : Response) : List RawText :=
  r.statusLine :: r.closingHeaders.toList.map headerLine

theorem head_eq (r : Response) : r.head = .join (r.texts.map (· ++ "\r\n")) ++ "\r\n" := rfl

theorem statusLine_eq (r : Response) :
    r.statusLine = RawText.ofString ("HTTP/1.1 " ++ toString r.status ++ " ") ++ r.reason := rfl

/-- Whether UTF-8 can encode the texts that are written. -/
def Encodable (r : Response) : Prop :=
  r.reason.Encodable ∧ ∀ p ∈ r.headers.toList, ¬SameName p.1 "Connection" →
    p.1.Encodable ∧ p.2.Encodable

instance (r : Response) : Decidable r.Encodable := inferInstanceAs (Decidable (_ ∧ _))

theorem encodable_of_mem_defaultHeaders {p : RawText × RawText} (h : p ∈ r.defaultHeaders) :
    p.1.Encodable ∧ p.2.Encodable := by
  simp only [defaultHeaders, List.mem_cons, List.not_mem_nil, or_false] at h
  rcases h with rfl | rfl <;> exact ⟨RawText.encodable_ofString _, RawText.encodable_ofString _⟩

theorem encodable_headerLine {p : RawText × RawText} :
    (headerLine p).Encodable ↔ p.1.Encodable ∧ p.2.Encodable := by
  rw [headerLine, RawText.encodable_append, RawText.encodable_append,
    and_iff_left (RawText.encodable_ofString _)]

/-- The texts of the head can be encoded where those of the response can. -/
theorem encodable_texts_iff : (∀ text ∈ r.texts, text.Encodable) ↔ r.Encodable := by
  rw [texts, List.forall_mem_cons, statusLine_eq, RawText.encodable_append,
    and_iff_right (RawText.encodable_ofString _), Encodable]
  refine and_congr_right fun _ => ?_
  simp only [List.forall_mem_map, encodable_headerLine]
  constructor
  · intro h p hp hne
    exact h p (mem_closingHeaders.mpr (Or.inr ⟨Or.inl hp, hne⟩))
  · intro h p hp
    rcases mem_closingHeaders.mp hp with rfl | ⟨hp | ⟨hp, -⟩, hne⟩
    · exact ⟨RawText.encodable_ofString _, RawText.encodable_ofString _⟩
    · exact h p hp hne
    · exact encodable_of_mem_defaultHeaders hp

theorem encodable_head_iff : r.head.Encodable ↔ r.Encodable := by
  rw [head_eq, RawText.encodable_append, and_iff_left (RawText.encodable_ofString _),
    RawText.encodable_join, ← encodable_texts_iff, List.forall_mem_map]
  refine forall₂_congr fun text _ => ?_
  rw [RawText.encodable_append, and_iff_left (RawText.encodable_ofString _)]

theorem head_of_texts {lines : List String} (h : r.texts = lines.map RawText.ofString) :
    r.head = RawText.ofString (String.join (lines.map (· ++ "\r\n")) ++ "\r\n") := by
  have hlines : r.texts.map (· ++ RawText.ofString "\r\n")
      = (lines.map (· ++ "\r\n")).map RawText.ofString := by
    rw [h, List.map_map, List.map_map]
    exact List.map_congr_left fun line _ => (RawText.ofString_append line "\r\n").symm
  rw [head_eq, hlines, RawText.join_map_ofString, ← RawText.ofString_append]

/-- **A response has bytes where UTF-8 can encode its texts.** -/
theorem toBytes?_eq_none_iff : r.toBytes? = none ↔ ¬r.Encodable := by
  rw [toBytes?, Option.map_eq_none_iff, RawText.bytes?_eq_none_iff, encodable_head_iff]

/-- **The bytes of a response are those of its lines, of the empty one and of its body.** -/
theorem toBytes?_eq_some_iff {bytes : Bytes} :
    r.toBytes? = some bytes ↔ ∃ lines : List String, r.texts = lines.map RawText.ofString
      ∧ bytes = lines.flatMap (fun line => utf8 (line ++ "\r\n")) ++ utf8 "\r\n" ++ r.body := by
  have hbytes : ∀ lines : List String, r.texts = lines.map RawText.ofString →
      r.toBytes? = some (lines.flatMap (fun line => utf8 (line ++ "\r\n")) ++ utf8 "\r\n"
        ++ r.body) := by
    intro lines h
    rw [toBytes?, head_of_texts h, RawText.bytes?_ofString, Option.map_some, utf8_append,
      utf8_join, List.flatMap_map]
  constructor
  · intro h
    have he : r.Encodable := by
      by_contra hn
      rw [toBytes?_eq_none_iff.mpr hn] at h
      cases h
    obtain ⟨lines, hlines⟩ := RawText.exists_map_ofString (encodable_texts_iff.mpr he)
    rw [hbytes lines hlines] at h
    exact ⟨lines, hlines, (Option.some.inj h).symm⟩
  · rintro ⟨lines, hlines, rfl⟩
    exact hbytes lines hlines

/-! ## What is found in the headers written -/

theorem valuesOf_connection (r : Response) :
    r.closingHeaders.valuesOf "Connection" = [RawText.ofString "close"] := by
  rw [Headers.valuesOf_eq_get?, closingHeaders, Headers.get?_insert, if_pos rfl]
  rfl

/-- A default counts unless the response has the header itself. -/
theorem valuesOf_default {name value : RawText}
    (hn : Text.lower (RawText.ofString "Connection") ≠ Text.lower name)
    (hd : (r.defaultHeaders.find? fun q => Text.lower q.1 = Text.lower name)
      = some (name, value)) :
    r.closingHeaders.valuesOf name = [(r.headers.get? name).getD value] := by
  rw [Headers.valuesOf_eq_get?, closingHeaders, Headers.get?_insert, if_neg hn,
    effectiveHeaders_eq, Headers.get?_withDefaults _ r.keysOf_defaultHeaders, hd]
  cases r.headers.get? name <;> rfl

theorem valuesOf_contentLength (r : Response) :
    r.closingHeaders.valuesOf "Content-Length"
      = [(r.headers.get? "Content-Length").getD (toString r.body.length)] := by
  refine valuesOf_default (by decide) ?_
  rw [defaultHeaders, List.find?_cons_of_pos (by simp)]

theorem valuesOf_contentType (r : Response) :
    r.closingHeaders.valuesOf "Content-Type"
      = [(r.headers.get? "Content-Type").getD defaultContentType] := by
  have hne : Text.lower (RawText.ofString "Content-Length")
      ≠ Text.lower (RawText.ofString "Content-Type") := by decide
  refine valuesOf_default (by decide) ?_
  rw [defaultHeaders, List.find?_cons_of_neg (by simpa using hne),
    List.find?_cons_of_pos (by simp)]

end HttpKit.Response
