import HttpKit.Proofs.Response.Head
import HttpKit.Proofs.Wire.Breaks
import Mathlib.Data.Prod.Basic

/-!
# What a text can do to the frame of a response

Texts are put into the head of a response as they are. So a line break in the reason, or in the name
or the value of a header, is taken for the end of its line, and a surrogate there leaves the
response without bytes. `framed_iff` says that these are the only ways in which a text can change
the frame, and that each of these texts can.

## How the argument goes

* the bytes, if there are any, are those of the lines, each of them with a break after it, and of
  the body
* no line is empty, whatever the texts are, because of what is put between them. Hence lines
  without breaks leave the frame as it is (`framed_iff_texts`)
* a line holds a break where one of its texts does, as the separators hold none
-/

namespace HttpKit.Response

open Wire (HoldsBreak endOfHead infix_append_cons_iff joinBreaks lineBreak splitBreaks)

variable {r : Response}

/-- Whether there are bytes of a response, of which those up to the first empty line are the status
line and one line for every header, and those after it the body. -/
def Framed (r : Response) : Prop :=
  ((r.toBytes?.bind (·.dropInfix? endOfHead)).map fun p => ((splitBreaks p.1).map some, p.2))
    = some (r.texts.map RawText.bytes?, r.body)

instance (r : Response) : Decidable r.Framed := inferInstanceAs (Decidable (_ = _))

/-! ## Lines -/

theorem map_bytes?_ofString (lines : List String) :
    (lines.map RawText.ofString).map RawText.bytes? = (lines.map utf8).map some := by
  rw [List.map_map, List.map_map]
  exact List.map_congr_left fun line _ => RawText.bytes?_ofString line

/-- The bytes of a response that has any. -/
theorem exists_lines (h : r.Encodable) : ∃ (line : String) (more : List String),
    r.texts = (line :: more).map RawText.ofString
      ∧ r.toBytes? = some (joinBreaks ((line :: more).map utf8) ++ endOfHead ++ r.body) := by
  obtain ⟨lines, htexts⟩ := RawText.exists_map_ofString (encodable_texts_iff.mpr h)
  have hbytes := toBytes?_eq_some_iff.mpr ⟨lines, htexts, rfl⟩
  match lines with
  | [] => simp [texts] at htexts
  | line :: more =>
    refine ⟨line, more, htexts, hbytes.trans (congrArg some ?_)⟩
    have hbreak : utf8 "\r\n" = lineBreak := by decide
    have hlines : (line :: more).flatMap (fun text => utf8 (text ++ "\r\n"))
        = ((line :: more).map utf8).flatMap (· ++ lineBreak) := by
      simp only [List.flatMap_map, utf8_append, hbreak]
    have hjoin : ((line :: more).map utf8).flatMap (· ++ lineBreak)
        = joinBreaks ((line :: more).map utf8) ++ lineBreak := Wire.flatMap_append_lineBreak _ _
    rw [hlines, hjoin, hbreak, endOfHead, List.append_assoc _ lineBreak lineBreak]

theorem ne_empty_of_mem_texts {text : String} (h : RawText.ofString text ∈ r.texts) :
    text ≠ "" := by
  have hpoints : ∀ t ∈ r.texts, t.points ≠ [] := by
    intro t ht
    rcases List.mem_cons.mp ht with rfl | ht
    · simp [statusLine_eq, RawText.points_append, RawText.ofString]
    · obtain ⟨p, -, rfl⟩ := List.mem_map.mp ht
      simp [headerLine, RawText.points_append, RawText.ofString]
  rintro rfl
  exact hpoints _ h rfl

/-- Where lines have bytes, the frame is kept if their bytes are found again. -/
theorem framed_iff_bytes {lines : List String} {bytes : Bytes} (h : r.toBytes? = some bytes)
    (htexts : r.texts = lines.map RawText.ofString) :
    r.Framed ↔ (bytes.dropInfix? endOfHead).map (fun p => (splitBreaks p.1, p.2))
      = some (lines.map utf8, r.body) := by
  have hsome : Function.Injective (List.map (some : Bytes → Option Bytes)) :=
    List.map_injective_iff.mpr fun _ _ => Option.some.inj
  have hinj : Function.Injective
      (Prod.map (List.map (some : Bytes → Option Bytes)) (@id Bytes)) :=
    hsome.prodMap Function.injective_id
  rw [Framed, h, htexts, map_bytes?_ofString, Option.bind_some,
    ← (Option.map_injective hinj).eq_iff, Option.map_map]
  exact Iff.rfl

/-- **The frame is kept where there are bytes and no line holds a break.** -/
theorem framed_iff_texts :
    r.Framed ↔ r.Encodable ∧ ∀ text ∈ r.texts, ¬HoldsBreak text := by
  by_cases he : r.Encodable
  · rw [and_iff_right he]
    obtain ⟨line, more, htexts, hbytes⟩ := exists_lines he
    have hbreaks : (∀ text ∈ r.texts, ¬HoldsBreak text)
        ↔ ∀ bytes ∈ (line :: more).map utf8, ¬lineBreak <:+: bytes := by
      rw [htexts]
      simp only [List.forall_mem_map, Wire.lineBreak_infix_utf8_iff]
    have hsplit : splitBreaks (joinBreaks ((line :: more).map utf8))
        = ((line :: more).map utf8).flatMap splitBreaks := Wire.splitBreaks_joinBreaks _ _
    rw [hbreaks, framed_iff_bytes hbytes htexts]
    constructor
    · intro h
      obtain ⟨⟨before, after⟩, hcut, hp⟩ := Option.map_eq_some_iff.mp h
      obtain ⟨hlines, rfl⟩ : splitBreaks before = (line :: more).map utf8 ∧ after = r.body :=
        Prod.mk.inj hp
      obtain ⟨⟨infix_, hbytes, hinfix⟩, -⟩ := List.dropInfix?_eq_some_iff.mp hcut
      have hbefore : joinBreaks ((line :: more).map utf8) = before := by
        rw [eq_of_beq hinfix] at hbytes
        exact List.append_cancel_right (List.append_cancel_right hbytes)
      -- There are as many pieces as lines, so that no line was cut.
      refine Wire.not_infix_of_length_flatMap ?_
      rw [← hsplit, hbefore, hlines]
    · intro h
      have hlines : ∀ bytes ∈ (line :: more).map utf8, bytes ≠ [] ∧ ¬lineBreak <:+: bytes := by
        intro bytes hb
        refine ⟨?_, h bytes hb⟩
        obtain ⟨text, htext, rfl⟩ := List.mem_map.mp hb
        exact utf8_ne_nil (ne_empty_of_mem_texts (htexts ▸ List.mem_map_of_mem htext))
      have hcut : (joinBreaks ((line :: more).map utf8) ++ endOfHead ++ r.body).dropInfix? endOfHead
          = some (joinBreaks ((line :: more).map utf8), r.body) :=
        Wire.dropInfix?_endOfHead r.body hlines
      rw [hcut, Option.map_some, hsplit, Wire.flatMap_splitBreaks_eq h]
  -- Without bytes there is no frame.
  · refine iff_of_false (fun h => ?_) fun h => he h.1
    rw [Framed, toBytes?_eq_none_iff.mpr he] at h
    cases h

/-! ## Texts -/

theorem holdsBreak_statusLine_iff : HoldsBreak r.statusLine ↔ HoldsBreak r.reason := by
  have hstatus : ¬HoldsBreak (RawText.ofString ("HTTP/1.1 " ++ toString r.status)) := by
    refine Wire.not_holdsBreak_of_not_mem ?_
    rw [RawText.char_mem_ofString, String.toList_append, List.mem_append, not_or]
    exact ⟨by decide, Numeral.not_mem_toString_int (by decide) (by decide) r.status⟩
  have hline : r.statusLine.points
      = (RawText.ofString ("HTTP/1.1 " ++ toString r.status)).points
        ++ .char ' ' :: r.reason.points := by
    rw [statusLine_eq, RawText.ofString_append, RawText.points_append, RawText.points_append,
      List.append_assoc]
    rfl
  rw [HoldsBreak, hline, infix_append_cons_iff (by decide)]
  exact or_iff_right hstatus

theorem holdsBreak_headerLine_iff {p : RawText × RawText} :
    HoldsBreak (headerLine p) ↔ HoldsBreak p.1 ∨ HoldsBreak p.2 := by
  have hline : (headerLine p).points
      = p.1.points ++ .char ':' :: ([] ++ .char ' ' :: p.2.points) := by
    rw [headerLine, RawText.points_append, RawText.points_append, List.append_assoc]
    rfl
  rw [HoldsBreak, hline, infix_append_cons_iff (by decide), infix_append_cons_iff (by decide)]
  exact or_congr_right (or_iff_right (by decide))

theorem not_holdsBreak_of_mem_defaultHeaders {p : RawText × RawText}
    (h : p ∈ r.defaultHeaders) : ¬HoldsBreak p.1 ∧ ¬HoldsBreak p.2 := by
  simp only [defaultHeaders, List.mem_cons, List.not_mem_nil, or_false] at h
  rcases h with rfl | rfl
  · have hname : ¬HoldsBreak "Content-Length" := by decide
    refine ⟨hname, Wire.not_holdsBreak_of_not_mem ?_⟩
    rw [RawText.char_mem_ofString]
    exact Numeral.not_mem_toString (by decide) _
  · decide

/-- **The frame is kept unless a text holds a line break or a surrogate.** The reason must not, and
the names and values of headers must not, but for the header that is replaced as the connection is
closed. -/
theorem framed_iff (r : Response) :
    r.Framed ↔ (r.reason.Encodable ∧ ¬HoldsBreak r.reason)
      ∧ ∀ p ∈ r.headers.toList, ¬SameName p.1 "Connection" →
        (p.1.Encodable ∧ ¬HoldsBreak p.1) ∧ (p.2.Encodable ∧ ¬HoldsBreak p.2) := by
  rw [framed_iff_texts, texts, List.forall_mem_cons, holdsBreak_statusLine_iff, Encodable]
  simp only [List.forall_mem_map, holdsBreak_headerLine_iff, not_or]
  constructor
  · rintro ⟨⟨hreason, hencodable⟩, hbreak, h⟩
    refine ⟨⟨hreason, hbreak⟩, fun p hp hne => ?_⟩
    obtain ⟨hname, hvalue⟩ := hencodable p hp hne
    obtain ⟨hname', hvalue'⟩ := h p (mem_closingHeaders.mpr (Or.inr ⟨Or.inl hp, hne⟩))
    exact ⟨⟨hname, hname'⟩, hvalue, hvalue'⟩
  · rintro ⟨⟨hreason, hbreak⟩, h⟩
    refine ⟨⟨hreason, fun p hp hne => ⟨(h p hp hne).1.1, (h p hp hne).2.1⟩⟩, hbreak,
      fun p hp => ?_⟩
    rcases mem_closingHeaders.mp hp with rfl | ⟨hp | ⟨hp, -⟩, hne⟩
    · decide
    · exact ⟨(h p hp hne).1.2, (h p hp hne).2.2⟩
    · exact not_holdsBreak_of_mem_defaultHeaders hp

/-- A value that brings a header of its own. -/
def smuggling : Response := .of 200 (.ofList [("X", "a\r\nY: b")]) []

theorem not_framed_smuggling : ¬smuggling.Framed := by decide

end HttpKit.Response
