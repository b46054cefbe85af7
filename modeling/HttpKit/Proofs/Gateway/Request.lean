import HttpKit.Gateway.Environ
import HttpKit.Proofs.Bytes.Latin1
import HttpKit.Proofs.Headers.OrderedMap
import HttpKit.Proofs.Text.Casing
import HttpKit.Proofs.Wire.RoundTrip

/-!
# One request on two ways

What is written on a connection as a message can also be handed over by a gateway, in variables and
with a body to read from. `Presents` says which variables hold a message. The request that is made
of them is the one that is read from the connection, but for the casing of the headers' names
(`requests_correspond`).

## How the argument goes

* the path is handed over as its bytes, so nothing is lost (`target_of_presents`)
* a header's name loses its casing in a variable and gets another one when it is taken out again; in
  lower case the name is the same (`sameName_headerName`). Hence the variables are read as headers
  of the same names and values in the same order (`toList_headers`)
* no two names have the same variable (`stem_eq_iff`), so the length of the body is found in its own
  and the body is read up to its end (`body_of_presents`)
-/

namespace HttpKit.Gateway

open Wire (Field Message)

/-! ## Variables -/

/-- A character of a header's name in a variable. -/
def variableChar (c : Char) : Char := if c = '-' then '_' else c.toUpper

/-- A header's name in a variable. -/
def stem (name : String) : String := String.ofList (name.toList.map variableChar)

/-- The variables of headers that have no mark in front. -/
def unmarked : List String := ["CONTENT_TYPE", "CONTENT_LENGTH"]

/-- The name of the variable that holds a header. -/
def variableName (name : String) : String :=
  if stem name ∈ unmarked then stem name else "HTTP_" ++ stem name

/-- The variable that holds a header. -/
def variableOf (f : Field) : String × String := (variableName f.name, f.value)

/-- Whether a variable of the name holds a header. -/
def HoldsHeader (name : String) : Prop := "HTTP_".toList <+: name.toList ∨ name ∈ unmarked

instance (name : String) : Decidable (HoldsHeader name) :=
  inferInstanceAs (Decidable (_ ∨ _))

/-- Whether a name is made of ASCII letters, digits and hyphens. -/
def IsPlain (name : String) : Prop := ∀ c ∈ name.toList, c.isAlphanum = true ∨ c = '-'

instance (name : String) : Decidable (IsPlain name) := List.decidableBAll _ _

/-- Messages whose headers can be told from variables: their names are plain, and none that is left
out when it is empty is empty. -/
structure Portable (m : Message) : Prop where
  plain : ∀ f ∈ m.fields, IsPlain f.name
  typed : ∀ f ∈ m.fields, SameName f.name "Content-Type" → f.value ≠ ""

/-- Messages that no header is given twice in, and whose body is the one that they declare. -/
structure DeclaresBody (m : Message) : Prop where
  distinct : (m.fields.map fun f => Text.lower f.name).Nodup
  declared : ∀ f ∈ m.fields, f.DeclaresLength →
    f.value = toString m.body.length ∨ f.value = "+" ++ toString m.body.length
  undeclared : (∀ f ∈ m.fields, ¬f.DeclaresLength) → m.body = []
  counted : m.body.length < countBound

theorem declaresBody {m : Message} {limit : Nat} (h : m.WellFormed limit) : DeclaresBody m where
  distinct := h.distinct
  declared := h.declared
  undeclared := h.undeclared
  counted := h.counted

/-- Variables that hold the head of a message: the bytes of the path as characters, the query if
there is one, the version, and the headers in order. There may be others in any place. -/
structure Presents (env : Environ) (path : String) (query : Option String)
    (client : Option Address) (m : Message) : Prop where
  target : m.target = path ++ (query.map ("?" ++ ·)).getD ""
  path_nonempty : path ≠ ""
  path : Assoc.get? "PATH_INFO" env = some (Latin1.decode (utf8 path))
  query : env.nonempty? "QUERY_STRING" = query
  version : Assoc.get? "SERVER_PROTOCOL" env = some m.version
  headers : env.filter (HoldsHeader ·.1) = m.fields.map variableOf
  client : env.client = .ok client

/-! ## Names of headers -/

theorem toNat_lt_of_plain {c : Char} (h : c.isAlphanum = true ∨ c = '-') : c.toNat < 0x80 := by
  rcases h with h | rfl
  · delta Char.isAlphanum Char.isAlpha Char.isUpper Char.isLower Char.isDigit at h
    simp only [Bool.or_eq_true, Bool.and_eq_true, decide_eq_true_eq, UInt32.le_iff_toNat_le,
      ge_iff_le] at h
    have hz : 'z'.val.toNat = 122 := rfl
    have hZ : 'Z'.val.toNat = 90 := rfl
    have h9 : '9'.val.toNat = 57 := rfl
    have hc : c.toNat = c.val.toNat := rfl
    omega
  · decide

theorem IsPlain.isAscii {name : String} (h : IsPlain name) : Text.IsAscii name := fun c hc =>
  toNat_lt_of_plain (h c hc)

/-- Taking a character out of a variable gives its upper case. -/
theorem variableChar_back {c : Char} (h : c.isAlphanum = true ∨ c = '-') :
    (if variableChar c = '_' then '-' else variableChar c) = c.toUpper :=
  Text.forall_ascii
    (p := fun c => (c.isAlphanum = true ∨ c = '-') →
      (if variableChar c = '_' then '-' else variableChar c) = c.toUpper)
    (by decide +kernel) (toNat_lt_of_plain h) h

theorem variableChar_toLower {c : Char} (h : c.toNat < 0x80) :
    variableChar c.toLower = variableChar c :=
  Text.forall_ascii (p := fun c => variableChar c.toLower = variableChar c) (by decide +kernel) h

/-- **A name that is taken out of a variable is the same in lower case.** -/
theorem sameName_headerName {name : String} (h : IsPlain name) :
    SameName (Environ.headerName (stem name).toList) name := by
  have hupper : (stem name).toList.map (fun c => if c = '_' then '-' else c)
      = name.toList.map Char.toUpper := by
    rw [stem, String.toList_ofList, List.map_map]
    exact List.map_congr_left fun c hc => variableChar_back (h c hc)
  have hascii : Text.IsAscii (String.ofList (name.toList.map Char.toUpper)) := by
    intro c hc
    rw [String.toList_ofList, List.mem_map] at hc
    obtain ⟨d, hd, rfl⟩ := hc
    exact Text.toNat_toUpper_lt (h.isAscii d hd)
  rw [SameName, Environ.headerName, hupper, Text.lower_title_of_ascii hascii,
    Text.lower_of_ascii hascii, Text.lower_of_ascii h.isAscii, String.toList_ofList, List.map_map]
  exact congrArg _ (List.map_congr_left fun c hc => Text.toLower_toUpper (h.isAscii c hc))

/-- **Names have the same variable only if they are the same in any casing.** -/
theorem stem_eq_iff {a b : String} (ha : IsPlain a) (hb : IsPlain b) :
    stem a = stem b ↔ SameName a b := by
  constructor
  · intro h
    have hname := sameName_headerName ha
    rw [h] at hname
    exact Eq.trans hname.symm (sameName_headerName hb)
  · intro h
    have hlower : a.toList.map Char.toLower = b.toList.map Char.toLower := by
      rw [SameName, Text.lower_of_ascii ha.isAscii, Text.lower_of_ascii hb.isAscii] at h
      exact String.ofList_injective h
    have hback : ∀ {s : String}, IsPlain s →
        s.toList.map variableChar = (s.toList.map Char.toLower).map variableChar := by
      intro s hs
      rw [List.map_map]
      exact List.map_congr_left fun c hc => (variableChar_toLower (hs.isAscii c hc)).symm
    rw [stem, stem, hback ha, hback hb, hlower]

/-! ## Variables read as headers -/

theorem drop_mark (name : String) :
    "HTTP_".toList.isPrefixOf ("HTTP_" ++ name).toList = true
      ∧ ("HTTP_" ++ name).toList.drop 5 = name.toList := by
  rw [String.toList_append]
  exact ⟨List.isPrefixOf_iff_prefix.mpr (List.prefix_append _ _), rfl⟩

/-- What a header is read as from its variable. -/
def readBack (f : Field) : String × String := (Environ.headerName (stem f.name).toList, f.value)

/-- A variable is read as a header, with or without a mark. -/
theorem header?_variableOf {f : Field} (h : stem f.name ∈ unmarked → f.value ≠ "") :
    Environ.header? (variableOf f) = some (readBack f) := by
  rw [variableOf, variableName, readBack]
  split
  · next hm =>
    have hvalue := h hm
    simp only [unmarked, List.mem_cons, List.not_mem_nil, or_false] at hm
    have hmark : "HTTP_".toList.isPrefixOf (stem f.name).toList = false := by
      rcases hm with hm | hm <;> rw [hm] <;> decide
    rw [Environ.header?, hmark, if_neg Bool.false_ne_true, if_pos ⟨hm, hvalue⟩]
  · obtain ⟨hmark, hdrop⟩ := drop_mark (stem f.name)
    rw [Environ.header?, hmark, if_pos rfl, hdrop]

theorem header?_of_not_holdsHeader {name : String} (h : ¬HoldsHeader name) (value : String) :
    Environ.header? (name, value) = none := by
  obtain ⟨hmark, hname⟩ := not_or.mp h
  simp only [unmarked, List.mem_cons, List.not_mem_nil, or_false] at hname
  rw [Environ.header?, if_neg (fun hp => hmark (List.isPrefixOf_iff_prefix.mp hp)),
    if_neg fun hn => hname hn.1]

section Presents

variable {env : Environ} {path : String} {query : Option String} {client : Option Address}
  {m : Message} {limit : Nat}

/-- A declared length is digits. -/
theorem isDigits_of_declares (hbody : DeclaresBody m) {f : Field} (hf : f ∈ m.fields)
    (hd : f.DeclaresLength) : IsDigits f.value.toList (Nat.toDigits 10 m.body.length) :=
  (isDigits_toString hbody.counted (hbody.declared f hf hd)).1

theorem ne_empty_of_unmarked (hbody : DeclaresBody m) (hport : Portable m) {f : Field}
    (hf : f ∈ m.fields) (h : stem f.name ∈ unmarked) : f.value ≠ "" := by
  have hplain := hport.plain f hf
  simp only [unmarked, List.mem_cons, List.not_mem_nil, or_false] at h
  rcases h with h | h
  · exact hport.typed f hf ((stem_eq_iff hplain (by decide)).mp (h.trans (by decide)))
  · have hd : f.DeclaresLength := (stem_eq_iff hplain (by decide)).mp (h.trans (by decide))
    rintro hvalue
    exact (isDigits_of_declares hbody hf hd).ne_nil (by rw [hvalue]; rfl)

/-- The variables are read as headers one by one, and the others are passed over. -/
theorem filterMap_header? (hbody : DeclaresBody m) (hport : Portable m)
    (h : Presents env path query client m) :
    env.filterMap Environ.header? = m.fields.map readBack := by
  have hothers : env.filterMap Environ.header?
      = (env.filter (HoldsHeader ·.1)).filterMap Environ.header? := by
    rw [List.filterMap_filter]
    refine List.filterMap_congr fun entry _ => ?_
    by_cases he : HoldsHeader entry.1
    · rw [if_pos (decide_eq_true he)]
    · rw [if_neg (by simpa using he), header?_of_not_holdsHeader he entry.2]
  rw [hothers, h.headers, List.filterMap_map, ← List.filterMap_eq_map]
  refine List.filterMap_congr fun f hf => ?_
  rw [Function.comp_apply, header?_variableOf (ne_empty_of_unmarked hbody hport hf)]
  rfl

theorem keysOf_readBack (hport : Portable m) :
    Headers.keysOf (m.fields.map readBack) = m.fields.map fun f => Text.lower f.name := by
  rw [Headers.keysOf, List.map_map]
  exact List.map_congr_left fun f hf => sameName_headerName (hport.plain f hf)

/-- **The variables are read as the headers of the message, in order.** -/
theorem toList_headers (hbody : DeclaresBody m) (hport : Portable m)
    (h : Presents env path query client m) : env.headers.toList = m.fields.map readBack := by
  have hdistinct : (Headers.keysOf (m.fields.map readBack)).Nodup :=
    keysOf_readBack hport ▸ hbody.distinct
  rw [Environ.headers, filterMap_header? hbody hport h, Headers.toList_ofList hdistinct]

/-! ## Target and body -/

theorem decode_ne_empty {bytes : Bytes} (h : bytes ≠ []) : Latin1.decode bytes ≠ "" := by
  intro he
  have hlist := congrArg String.toList he
  rw [Latin1.decode, String.toList_ofList] at hlist
  exact h (List.map_eq_nil_iff.mp hlist)

/-- **The target is put together again.** -/
theorem target_of_presents (h : Presents env path query client m) : env.target = .ok m.target := by
  have hpath : env.nonempty? "PATH_INFO" = some (Latin1.decode (utf8 path)) := by
    rw [Environ.nonempty?, h.path]
    exact if_pos (decide_eq_true (decode_ne_empty (utf8_ne_nil h.path_nonempty)))
  rw [Environ.target, hpath, Option.getD_some, Latin1.encode?_decode]
  simp only [ofUtf8_utf8, h.query, h.target]
  cases query with
  | none => exact congrArg _ (String.append_empty).symm
  | some query => exact congrArg _ String.append_assoc

theorem variableName_eq_contentLength_iff {name : String} (h : IsPlain name) :
    variableName name = "CONTENT_LENGTH" ↔ SameName name "Content-Length" := by
  have hstem : stem "Content-Length" = "CONTENT_LENGTH" := by decide
  rw [← stem_eq_iff h (by decide), hstem, variableName]
  split
  · exact Iff.rfl
  · next hm =>
    constructor
    · intro he
      have hmark := (drop_mark (stem name)).1
      rw [he] at hmark
      exact absurd hmark (by decide)
    · intro he
      exact absurd (he ▸ List.mem_cons_of_mem _ List.mem_cons_self) hm

/-- The length of the body is in the variable of the header that declares it. -/
theorem get?_contentLength (h : Presents env path query client m) :
    Assoc.get? "CONTENT_LENGTH" env
      = (m.fields.find? (variableName ·.name = "CONTENT_LENGTH")).map Field.value := by
  have hfields : ((m.fields.map variableOf).find? (·.1 = "CONTENT_LENGTH")).map Prod.snd
      = (m.fields.find? (variableName ·.name = "CONTENT_LENGTH")).map Field.value := by
    simp only [List.find?_map, Option.map_map, Function.comp_def, variableOf]
    rfl
  rw [Assoc.get?, ← hfields, ← h.headers, List.find?_filter]
  refine congrArg (Option.map _) (congrArg (List.find? · env) (funext fun entry => ?_))
  by_cases he : entry.1 = "CONTENT_LENGTH"
  · have hholds : HoldsHeader "CONTENT_LENGTH" := by decide
    simp [he, hholds]
  · simp [he]

theorem bodyLength_of_presents (hbody : DeclaresBody m) (hport : Portable m)
    (h : Presents env path query client m) : env.bodyLength = m.body.length := by
  have hdeclares : ∀ f ∈ m.fields, variableName f.name = "CONTENT_LENGTH" ↔ f.DeclaresLength :=
    fun f hf => variableName_eq_contentLength_iff (hport.plain f hf)
  have hlength := get?_contentLength h
  delta Environ.bodyLength
  cases hfind : m.fields.find? (variableName ·.name = "CONTENT_LENGTH") with
  | none =>
    have hnone : m.body = [] := hbody.undeclared fun f hf hd =>
      List.find?_eq_none.mp hfind f hf (decide_eq_true ((hdeclares f hf).mpr hd))
    rw [Environ.nonempty?, hlength, hfind, hnone]
    decide
  | some f =>
    have hf := List.mem_of_find?_eq_some hfind
    have hd : f.DeclaresLength := (hdeclares f hf).mp (by simpa using List.find?_some hfind)
    have hvalue : f.value ≠ "" := fun he =>
      (isDigits_of_declares hbody hf hd).ne_nil (by rw [he]; rfl)
    have hwhole := Numeral.whole_toString hbody.counted (hbody.declared f hf hd)
    simp only [Environ.nonempty?, hlength, hfind, Option.map_some, Option.filter_some, hvalue,
      ne_eq, not_false_eq_true, decide_true, if_true, Option.getD_some, hwhole, Int.toNat_natCast]

/-- **The body is read up to its end.** -/
theorem body_of_presents (hbody : DeclaresBody m) (hport : Portable m)
    (h : Presents env path query client m) (rest : Bytes) :
    env.body (some ⟨m.body ++ rest⟩) = .ok m.body := by
  have hlength := bodyLength_of_presents hbody hport h
  simp only [Environ.body, hlength]
  split
  · next h0 => rw [List.length_eq_zero_iff.mp h0]
  · have hread : (Memory.read m.body.length ⟨m.body ++ rest⟩).1 = .data m.body := by
      rw [Memory.read, if_neg (Nat.not_le.mpr hbody.counted), Memory.take, List.take_left]
    rw [hread]

/-- The request that the variables of a message hold. -/
theorem request_of_declaresBody (hbody : DeclaresBody m) (hport : Portable m)
    (h : Presents env path query client m) (rest : Bytes) :
    env.request (some ⟨m.body ++ rest⟩) m.method
      = .ok { m.request client with headers := env.headers } := by
  rw [Environ.request, target_of_presents h, h.client, body_of_presents hbody hport h rest,
    h.version]
  rfl

theorem request_of_presents (hwell : m.WellFormed limit) (hport : Portable m)
    (h : Presents env path query client m) (rest : Bytes) :
    env.request (some ⟨m.body ++ rest⟩) m.method
      = .ok { m.request client with headers := env.headers } :=
  request_of_declaresBody (declaresBody hwell) hport h rest

/-! ## Both requests -/

/-- Two headers with the same value under the same name in any casing. -/
def SameHeader (a b : String × String) : Prop := SameName a.1 b.1 ∧ a.2 = b.2

theorem forall₂_headers_of_declaresBody (hbody : DeclaresBody m) (hport : Portable m)
    (h : Presents env path query client m) :
    List.Forall₂ SameHeader (m.request client).headers.toList env.headers.toList := by
  have hkeys : (Headers.keysOf m.pairs).Nodup := by
    rw [Headers.keysOf, Message.pairs, List.map_map]
    exact hbody.distinct
  have hwritten : (m.request client).headers.toList = m.fields.map Field.pair :=
    Headers.toList_ofList hkeys
  rw [hwritten, toList_headers hbody hport h, List.forall₂_map_left_iff,
    List.forall₂_map_right_iff, List.forall₂_same]
  exact fun f hf => ⟨(sameName_headerName (hport.plain f hf)).symm, rfl⟩

theorem forall₂_headers (hwell : m.WellFormed limit) (hport : Portable m)
    (h : Presents env path query client m) :
    List.Forall₂ SameHeader (m.request client).headers.toList env.headers.toList :=
  forall₂_headers_of_declaresBody (declaresBody hwell) hport h

/-- The same is found in headers that differ in the casing of their names alone. -/
theorem get?_eq_of_forall₂ {hs hs' : Headers}
    (h : List.Forall₂ SameHeader hs.toList hs'.toList) (name : String) :
    hs'.get? name = hs.get? name := by
  have hvalues : hs'.valuesOf name = hs.valuesOf name := by
    rw [Headers.valuesOf, Headers.valuesOf]
    generalize hs.toList = entries at h ⊢
    generalize hs'.toList = entries' at h ⊢
    induction h with
    | nil => rfl
    | cons hab _ ih =>
      obtain ⟨hname, hvalue⟩ := hab
      rw [SameName] at hname
      rw [List.filter_cons, List.filter_cons, hname]
      split
      · rw [List.map_cons, List.map_cons, ih, hvalue]
      · exact ih
  rw [Headers.valuesOf_eq_get?, Headers.valuesOf_eq_get?] at hvalues
  simpa using congrArg List.head? hvalues

/-- **A message is the same request on both ways.** It is read from a connection up to its last
byte, and made of the variables that a gateway hands over and the body that it offers. Method,
target, version, body and peer are the same, there are as many headers in the same order, with the
same values under names that differ in their casing at most, and so the same is found under every
name. -/
theorem requests_correspond (hlimit : limit + 1 < countBound) (hwell : m.WellFormed limit)
    (hport : Portable m) (h : Presents env path query client m) (rest rest' : Bytes) :
    ∃ r r', Wire.readRequest (limit : Int) client (Memory.mk (m.write ++ rest)) = (.ok r, ⟨rest⟩)
      ∧ env.request (some ⟨m.body ++ rest'⟩) m.method = .ok r'
      ∧ r'.method = r.method ∧ r'.target = r.target ∧ r'.version = r.version
      ∧ r'.body = r.body ∧ r'.client = r.client
      ∧ List.Forall₂ SameHeader r.headers.toList r'.headers.toList
      ∧ ∀ name, r'.header name = r.header name := by
  have hheaders := forall₂_headers hwell hport h
  exact ⟨m.request client, { m.request client with headers := env.headers },
    Message.readRequest_write hlimit hwell client rest, request_of_presents hwell hport h rest',
    rfl, rfl, rfl, rfl, rfl, hheaders, get?_eq_of_forall₂ hheaders⟩

end Presents

/-! ## The variables of a message -/

/-- The variables of a message and nothing else. -/
def environOf (path : String) (query : Option String) (m : Message) : Environ :=
  ("REQUEST_METHOD", m.token) :: ("PATH_INFO", Latin1.decode (utf8 path))
    :: ((query.map (("QUERY_STRING", ·))).toList
      ++ ("SERVER_PROTOCOL", m.version) :: m.fields.map variableOf)

theorem holdsHeader_variableName (name : String) : HoldsHeader (variableName name) := by
  rw [variableName]
  split
  · next hm => exact Or.inr hm
  · exact Or.inl (List.isPrefixOf_iff_prefix.mp (drop_mark (stem name)).1)

/-- Only headers are in the variables of headers. -/
theorem get?_variableOf {name : String} (h : ¬HoldsHeader name) (fields : List Field) :
    Assoc.get? name (fields.map variableOf) = none := by
  rw [Assoc.get?, Option.map_eq_none_iff, List.find?_eq_none]
  intro entry hentry he
  obtain ⟨f, -, rfl⟩ := List.mem_map.mp hentry
  exact h (of_decide_eq_true he ▸ holdsHeader_variableName f.name)

/-- **Every message can be handed over**, at a path and with a query if there is one. -/
theorem presents_environOf {path : String} {query : Option String} {m : Message}
    (htarget : m.target = path ++ (query.map ("?" ++ ·)).getD "") (hpath : path ≠ "")
    (hquery : query ≠ some "") : Presents (environOf path query m) path query none m where
  target := htarget
  path_nonempty := hpath
  path := rfl
  query := by
    cases query with
    | none =>
      have hnone : Assoc.get? "QUERY_STRING" (environOf path none m) = none :=
        get?_variableOf (by decide) m.fields
      rw [Environ.nonempty?, hnone]
      rfl
    | some query =>
      have hsome : Assoc.get? "QUERY_STRING" (environOf path (some query) m) = some query := rfl
      have hne : query ≠ "" := fun he => hquery (congrArg some he)
      simp only [Environ.nonempty?, hsome, Option.filter_some, hne, ne_eq, not_false_eq_true,
        decide_true, if_true]
  version := by cases query <;> rfl
  headers := by
    have hfields : (m.fields.map variableOf).filter (HoldsHeader ·.1)
        = m.fields.map variableOf := by
      refine List.filter_eq_self.mpr fun entry hentry => ?_
      obtain ⟨f, -, rfl⟩ := List.mem_map.mp hentry
      exact decide_eq_true (holdsHeader_variableName f.name)
    have hothers : ¬HoldsHeader "REQUEST_METHOD" ∧ ¬HoldsHeader "PATH_INFO"
        ∧ ¬HoldsHeader "QUERY_STRING" ∧ ¬HoldsHeader "SERVER_PROTOCOL" := by decide
    cases query <;> simp [environOf, hfields, hothers]
  client := by
    have hnone : Assoc.get? "REMOTE_ADDR" (environOf path query m) = none := by
      cases query <;> exact get?_variableOf (by decide) m.fields
    rw [Environ.client, Environ.nonempty?, hnone]
    rfl

/-- A message with all that changes on the way. -/
def posted : Message where
  method := .post
  token := "POST"
  target := "/é?q=1"
  version := "HTTP/1.1"
  ending := .crlf
  fields := [⟨"x-2-TRACE-", "", .crlf⟩, ⟨"CONTENT-length", "3", .crlf⟩,
    ⟨"content-Type", "text/plain", .lf⟩, ⟨"Host", "a: b", .crlf⟩]
  blank := .crlf
  body := utf8 "é\n"

theorem requests_correspond_posted :
    64 + 1 < countBound ∧ posted.WellFormed 64 ∧ Portable posted
      ∧ Presents (environOf "/é" (some "q=1") posted) "/é" (some "q=1") none posted
      ∧ ∃ r r',
        Wire.readRequest ((64 : Nat) : Int) none (Memory.mk (posted.write ++ [])) = (.ok r, ⟨[]⟩)
        ∧ (environOf "/é" (some "q=1") posted).request (some ⟨posted.body ++ []⟩) posted.method
          = .ok r'
        ∧ r'.method = r.method ∧ r'.target = r.target ∧ r'.version = r.version
        ∧ r'.body = r.body ∧ r'.client = r.client
        ∧ List.Forall₂ SameHeader r.headers.toList r'.headers.toList
        ∧ ∀ name, r'.header name = r.header name := by
  have hlimit : 64 + 1 < countBound := by decide
  have hwell : posted.WellFormed 64 := by decide
  have hport : Portable posted := ⟨by decide, by decide⟩
  have hpresents : Presents (environOf "/é" (some "q=1") posted) "/é" (some "q=1") none posted :=
    presents_environOf (by decide) (by decide) (by decide)
  exact ⟨hlimit, hwell, hport, hpresents, requests_correspond hlimit hwell hport hpresents [] []⟩

/-- The greatest count is no limit: one more cannot be counted, so that a request is made of the
variables and none is read from the connection. -/
theorem requests_greatest_count :
    Wire.bare.WellFormed (countBound - 1) ∧ Portable Wire.bare
      ∧ Presents (environOf "/" none Wire.bare) "/" none none Wire.bare
      ∧ (∃ r', (environOf "/" none Wire.bare).request (some ⟨Wire.bare.body⟩) Wire.bare.method
        = .ok r')
      ∧ ∀ r, (Wire.readRequest ((countBound - 1 : Nat) : Int) none
        (Memory.mk Wire.bare.write)).1 ≠ .ok r := by
  have hbound : countBound ≤ countBound - 1 + 1 := by decide
  have hfails : (Wire.readRequest ((countBound - 1 : Nat) : Int) none
      (Memory.mk Wire.bare.write)).1 = .error (.read .countTooLarge) :=
    Wire.readRequest_of_lineError
      (Wire.readRequestLine_of_failed (Wire.read_of_countBound_le hbound _))
  refine ⟨by decide, ⟨by decide, by decide⟩,
    presents_environOf (by decide) (by decide) (by decide), ⟨_, rfl⟩, fun r hr => ?_⟩
  rw [hfails] at hr
  cases hr

end HttpKit.Gateway
