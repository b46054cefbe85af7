import HttpKit.Proofs.Bytes.Utf8
import HttpKit.Proofs.Gateway.Request

/-!
# Texts that a gateway hands over byte by byte

A gateway takes the bytes of a request for characters, one for every byte (`Latin1.reading`). The
path is put into UTF-8 again when the request is made, the query and the values of the headers are
left as they are. So the request has the query and the values of the message only if these are ASCII
(`requests_decoded`).

## How the argument goes

* a text is the characters of its bytes only if it has no more bytes than characters
  (`Latin1.reading_eq_self_iff`)
* variables that hold a message byte by byte present another message, whose query and values are
  characters for bytes (`HandsOver.presents`); it declares the same body, for a declared length is
  ASCII (`declaresBody_byByte`)
* so the request is made as for any message that is presented, and what is found under a name is the
  reading of what the message has there (`get?_ofList_map`)
-/

namespace HttpKit

/-! ## Characters for bytes -/

namespace Latin1

/-- A text as one character for every byte of its UTF-8. -/
def reading (s : String) : String := decode (utf8 s)

theorem decode_encodeChar_of_ascii {c : Char} (h : c.toNat < 0x80) :
    (String.utf8EncodeChar c).map (fun b => Char.ofNat b.toNat) = [c] :=
  Text.forall_ascii
    (p := fun c => (String.utf8EncodeChar c).map (fun b => Char.ofNat b.toNat) = [c])
    (by decide +kernel) h

theorem toNat_lt_iff_utf8Size {c : Char} : c.toNat < 0x80 ↔ c.utf8Size = 1 := by
  have hval : c.toNat = c.val.toNat := rfl
  have hlast : (127 : UInt32).toNat = 127 := rfl
  rw [Char.utf8Size_eq_one_iff, UInt32.le_iff_toNat_le, hval, hlast]
  omega

theorem length_le_length_encode (cs : List Char) : cs.length ≤ (Utf8.encode cs).length := by
  induction cs with
  | nil => exact Nat.zero_le _
  | cons c cs ih =>
    have hc := c.utf8Size_pos
    rw [Utf8.encode, List.flatMap_cons, ← Utf8.encode, List.length_append,
      String.length_utf8EncodeChar, List.length_cons]
    omega

/-- Only ASCII has as many bytes as characters. -/
theorem ascii_of_length_encode {cs : List Char} (h : (Utf8.encode cs).length = cs.length) :
    ∀ c ∈ cs, c.toNat < 0x80 := by
  induction cs with
  | nil => exact fun _ hc => nomatch hc
  | cons c cs ih =>
    have hc := c.utf8Size_pos
    have hcs := length_le_length_encode cs
    rw [Utf8.encode, List.flatMap_cons, ← Utf8.encode, List.length_append,
      String.length_utf8EncodeChar, List.length_cons] at h
    exact List.forall_mem_cons.mpr ⟨toNat_lt_iff_utf8Size.mpr (by omega), ih (by omega)⟩

/-- **A text is the characters of its bytes only if it is ASCII.** -/
theorem reading_eq_self_iff {s : String} : reading s = s ↔ Text.IsAscii s := by
  have hlist : (reading s).toList = (Utf8.encode s.toList).map fun b => Char.ofNat b.toNat :=
    String.toList_ofList
  constructor
  · intro h
    have hlength := congrArg List.length hlist
    rw [h, List.length_map] at hlength
    exact ascii_of_length_encode hlength.symm
  · intro h
    rw [← String.toList_inj, hlist, Utf8.encode, List.map_flatMap]
    have hchars : ∀ c ∈ s.toList,
        (String.utf8EncodeChar c).map (fun b => Char.ofNat b.toNat) = [c] := fun c hc =>
      decode_encodeChar_of_ascii (h c hc)
    rw [List.flatMap_congr hchars, List.flatMap_singleton']

end Latin1

namespace Gateway

open Wire (Field Message)

/-! ## Messages byte by byte -/

/-- Variables that hold the head of a message byte by byte, as `Presents` has it for the path alone.
A query that is empty is handed over as none. -/
structure HandsOver (env : Environ) (path : String) (query : Option String)
    (client : Option Address) (m : Message) : Prop where
  target : m.target = path ++ (query.map ("?" ++ ·)).getD ""
  path_nonempty : path ≠ ""
  path_uncut : '?' ∉ path.toList
  path : Assoc.get? "PATH_INFO" env = some (Latin1.reading path)
  query : env.nonempty? "QUERY_STRING" = (query.filter (· ≠ "")).map Latin1.reading
  version : Assoc.get? "SERVER_PROTOCOL" env = some (Latin1.reading m.version)
  headers : env.filter (HoldsHeader ·.1)
    = m.fields.map fun f => (variableName f.name, Latin1.reading f.value)
  client : env.client = .ok client

/-- A header whose value is taken byte by byte. -/
def fieldByByte (f : Field) : Field := { f with value := Latin1.reading f.value }

/-- A message whose query, version and values are taken byte by byte. -/
def byByte (path : String) (query : Option String) (m : Message) : Message :=
  { m with
    target := path ++ ((query.filter (· ≠ "")).map fun q => "?" ++ Latin1.reading q).getD ""
    version := Latin1.reading m.version
    fields := m.fields.map fieldByByte }

variable {env : Environ} {path : String} {query : Option String} {client : Option Address}
  {m : Message} {limit : Nat}

/-- **What holds a message byte by byte presents the message that is taken byte by byte.** -/
theorem HandsOver.presents (h : HandsOver env path query client m) :
    Presents env path ((query.filter (· ≠ "")).map Latin1.reading) client (byByte path query m)
    where
  target := by
    rw [byByte, Option.map_map]
    rfl
  path_nonempty := h.path_nonempty
  path := h.path
  query := h.query
  version := h.version
  headers := by
    rw [h.headers, byByte, List.map_map]
    rfl
  client := h.client

theorem isAscii_of_declares (hbody : DeclaresBody m) {f : Field} (hf : f ∈ m.fields)
    (hd : f.DeclaresLength) : Text.IsAscii f.value := by
  intro c hc
  have hrange := Numeral.toNat_of_isDigits (isDigits_of_declares hbody hf hd) hc
  omega

/-- A declared length is the same byte by byte. -/
theorem declaresBody_byByte (hbody : DeclaresBody m) (path : String) (query : Option String) :
    DeclaresBody (byByte path query m) where
  distinct := by
    rw [byByte, List.map_map]
    exact hbody.distinct
  declared := by
    intro f hf hd
    obtain ⟨f, hmem, rfl⟩ := List.mem_map.mp hf
    rw [fieldByByte, Latin1.reading_eq_self_iff.mpr (isAscii_of_declares hbody hmem hd)]
    exact hbody.declared f hmem hd
  undeclared h := hbody.undeclared fun f hf => h (fieldByByte f) (List.mem_map_of_mem hf)
  counted := hbody.counted

theorem portable_byByte (hport : Portable m) (path : String) (query : Option String) :
    Portable (byByte path query m) where
  plain := by
    intro f hf
    obtain ⟨f, hmem, rfl⟩ := List.mem_map.mp hf
    exact hport.plain f hmem
  typed := by
    intro f hf hname
    obtain ⟨f, hmem, rfl⟩ := List.mem_map.mp hf
    exact decode_ne_empty (utf8_ne_nil (hport.typed f hmem hname))

/-! ## What is found -/

/-- The path and the query are what a target is put together of. -/
theorem path_query_of_target {r : Request} (huncut : '?' ∉ path.toList)
    (htarget : r.target = path ++ (query.map ("?" ++ ·)).getD "") :
    r.path = path ∧ r.query = query.getD "" := by
  rw [Request.path, Request.query, Text.before, Text.after, htarget]
  cases query with
  | none =>
    rw [Option.map_none, Option.getD_none, String.append_empty, Text.cut_of_not_mem huncut]
    exact ⟨String.ofList_toList, rfl⟩
  | some query =>
    have hlist : (path ++ ("?" ++ query)).toList = path.toList ++ '?' :: query.toList := by simp
    rw [Option.map_some, Option.getD_some, hlist, Text.cut_append_cons huncut]
    exact ⟨String.ofList_toList, String.ofList_toList⟩

/-- An empty query is the same as none. -/
theorem getD_map_reading (query : Option String) :
    ((query.filter (· ≠ "")).map Latin1.reading).getD "" = Latin1.reading (query.getD "") := by
  cases query with
  | none => rfl
  | some query =>
    by_cases hempty : query = ""
    · rw [hempty]
      rfl
    · simp [Option.filter_some, hempty]

theorem header_byByte (hbody : DeclaresBody m) (hport : Portable m)
    (h : HandsOver env path query client m) (name : String) :
    env.headers.get? name = ((m.request client).header name).map Latin1.reading := by
  have hheaders := forall₂_headers_of_declaresBody (declaresBody_byByte hbody path query)
    (portable_byByte hport path query) h.presents
  have hpairs : (byByte path query m).pairs = m.pairs.map fun p => (p.1, Latin1.reading p.2) := by
    rw [Message.pairs, Message.pairs, byByte, List.map_map, List.map_map]
    rfl
  rw [get?_eq_of_forall₂ hheaders name, Message.request, hpairs]
  exact Headers.get?_ofList_map Latin1.reading m.pairs name

/-! ## Both requests -/

/-- **A query and values are the same on both ways only if they are ASCII.** A message is read from
a connection, with its query and the values of its headers in it, and made of the variables that
hold it byte by byte. The path is the same. The query and every value are the characters of their
bytes, and these are other texts unless they are ASCII. -/
theorem requests_decoded (hlimit : limit + 1 < countBound) (hwell : m.WellFormed limit)
    (hport : Portable m) (h : HandsOver env path query client m) (rest rest' : Bytes) :
    ∃ r r', Wire.readRequest (limit : Int) client (Memory.mk (m.write ++ rest)) = (.ok r, ⟨rest⟩)
      ∧ env.request (some ⟨m.body ++ rest'⟩) m.method = .ok r'
      ∧ r.path = path ∧ r.query = query.getD ""
      ∧ (∀ f ∈ m.fields, r.header f.name = some f.value)
      ∧ r'.path = r.path
      ∧ r'.query = Latin1.reading r.query
      ∧ (∀ name, r'.header name = (r.header name).map Latin1.reading)
      ∧ (r'.query = r.query ↔ Text.IsAscii r.query)
      ∧ ∀ name, r'.header name = r.header name
        ↔ ∀ value ∈ r.header name, Text.IsAscii value := by
  have hbody := declaresBody hwell
  have hrequest := request_of_declaresBody (declaresBody_byByte hbody path query)
    (portable_byByte hport path query) h.presents rest'
  obtain ⟨hpath, hquery⟩ :=
    path_query_of_target (r := m.request client) h.path_uncut h.target
  obtain ⟨hpath', hquery'⟩ := path_query_of_target
    (r := { (byByte path query m).request client with headers := env.headers }) h.path_uncut
    h.presents.target
  have hpairs : (m.request client).headers.toList = m.pairs :=
    Headers.toList_ofList (Message.keysOf_pairs hwell)
  have hheader := header_byByte hbody hport h
  refine ⟨m.request client, { (byByte path query m).request client with headers := env.headers },
    Message.readRequest_write hlimit hwell client rest, hrequest, hpath, hquery, ?_,
    hpath'.trans hpath.symm, ?_, hheader, ?_, ?_⟩
  · intro f hf
    exact Headers.get?_of_mem (e := f.pair) (hpairs ▸ List.mem_map_of_mem hf) rfl
  · rw [hquery', getD_map_reading query, hquery]
  · rw [hquery', getD_map_reading query, ← hquery, Latin1.reading_eq_self_iff]
  · intro name
    show env.headers.get? name = _ ↔ _
    rw [hheader name]
    cases (m.request client).header name with
    | none => simp
    | some value => simp [Latin1.reading_eq_self_iff]

/-- A message whose path, query and only header are beyond ASCII. -/
def accented : Message where
  method := .get
  token := "GET"
  target := "/é?q=é"
  version := "HTTP/1.1"
  ending := .crlf
  fields := [⟨"X-Name", "é", .crlf⟩]
  blank := .crlf
  body := []

/-- What a gateway hands over of it. -/
def accentedEnviron : Environ :=
  [("PATH_INFO", "/\u00c3\u00a9"), ("QUERY_STRING", "q=\u00c3\u00a9"),
    ("SERVER_PROTOCOL", "HTTP/1.1"), ("HTTP_X_NAME", "\u00c3\u00a9")]

theorem handsOver_accented :
    HandsOver accentedEnviron "/é" (some "q=é") none accented where
  target := by decide
  path_nonempty := by decide
  path_uncut := by decide
  path := by decide
  query := by decide
  version := by decide
  headers := by decide
  client := by rfl

theorem requests_decoded_accented :
    64 + 1 < countBound ∧ accented.WellFormed 64 ∧ Portable accented
      ∧ HandsOver accentedEnviron "/é" (some "q=é") none accented
      ∧ ∃ r r', Wire.readRequest ((64 : Nat) : Int) none (Memory.mk (accented.write ++ []))
          = (.ok r, ⟨[]⟩)
        ∧ accentedEnviron.request (some ⟨accented.body ++ []⟩) accented.method = .ok r'
        ∧ r'.path = r.path ∧ r'.query ≠ r.query ∧ r'.header "X-Name" ≠ r.header "X-Name" := by
  have hlimit : 64 + 1 < countBound := by decide
  have hwell : accented.WellFormed 64 := by decide
  have hport : Portable accented := ⟨by decide, by decide⟩
  obtain ⟨r, r', hr, hr', hpath, hquery, hfields, hpath', -, -, hsame, hheader⟩ :=
    requests_decoded hlimit hwell hport handsOver_accented [] []
  have hvalue : r.header "X-Name" = some "é" :=
    hfields ⟨"X-Name", "é", .crlf⟩ (List.mem_singleton.mpr rfl)
  refine ⟨hlimit, hwell, hport, handsOver_accented, r, r', hr, hr', hpath', ?_, ?_⟩
  · rw [Ne, hsame, hquery]
    decide
  · rw [Ne, hheader, hvalue]
    exact fun hascii => absurd (hascii "é" rfl) (by decide)

/-- The query and the header of a request that a gateway hands over are not those that are read. -/
theorem query_header_not_decoded :
    (∃ r, Wire.readRequest ((64 : Nat) : Int) none (Memory.mk (accented.write ++ []))
        = (.ok r, ⟨[]⟩)
      ∧ r.path = "/é" ∧ r.query = "q=é" ∧ r.header "X-Name" = some "é")
    ∧ ∃ r', accentedEnviron.request none accented.method = .ok r'
      ∧ r'.path = "/é" ∧ r'.query = "q=Ã©" ∧ r'.header "X-Name" = some "Ã©" :=
  ⟨⟨_, Message.readRequest_write (by decide) (by decide) none [], by decide, by decide, by decide⟩,
    _, rfl, by decide, by decide, by decide⟩

end Gateway

end HttpKit
