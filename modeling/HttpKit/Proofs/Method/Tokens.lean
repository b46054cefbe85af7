import HttpKit.Proofs.Gateway.Answer
import HttpKit.Proofs.Method
import HttpKit.Proofs.Router.Mounting
import HttpKit.Wire.Request

/-!
# What names a method

A token is put in upper case before it is looked up, and the full case mappings know more than the
letters of ASCII: a dotless i, a long s and the ligatures of s and t have an upper case in ASCII.
`Spells` is what a token has to be. For methods without I and S, and for tokens in ASCII, it is the
name of the method but for the case of its letters.

## How the argument goes

* of the characters beyond ASCII, few have an upper case in ASCII (`upperChar_cases`); the tables
  are looked through once for that
* by induction on the token, its upper case is a name if and only if the token spells it
  (`flatMap_upperChar_eq_iff`); names have no F and no double S, so that no more ligatures come in
* where methods are accepted, a token comes in through `Method.ofToken?` alone
-/

namespace HttpKit

namespace Text

/-! ## Upper case in ASCII -/

/-- The characters beyond ASCII whose upper case is ASCII, with their upper case. -/
def asciiUppers : List (Nat × List Nat) :=
  [(0xDF, [0x53, 0x53]), (0x131, [0x49]), (0x17F, [0x53]), (0xFB00, [0x46, 0x46]),
    (0xFB01, [0x46, 0x49]), (0xFB02, [0x46, 0x4C]), (0xFB03, [0x46, 0x46, 0x49]),
    (0xFB04, [0x46, 0x46, 0x4C]), (0xFB05, [0x53, 0x54]), (0xFB06, [0x53, 0x54])]

/-- A code point beyond ASCII stays there, where there is a character for it. -/
theorem le_toNat_ofNat {n : Nat} (h : 0x80 ≤ n) (hn : n < 0xD800 ∨ 0xDFFF < n ∧ n < 0x110000) :
    0x80 ≤ (Char.ofNat n).toNat := by
  have hchar : Char.ofNat n = Char.ofNatAux n hn := dif_pos hn
  rw [hchar]
  exact h

/-- Runs lead out of ASCII nowhere else than they lead into it. -/
theorem map?_cases {r : CaseRun} {n image : Nat} (hr : r ∈ upperRuns) (h : r.map? n = some image) :
    0x80 ≤ (Char.ofNat image).toNat ∨ (n, [image]) ∈ asciiUppers := by
  have hruns : ∀ r ∈ upperRuns,
      0x80 ≤ r.image ∧ (r.image + (r.last - r.first) < 0xD800
        ∨ 0xDFFF < r.image ∧ r.image + (r.last - r.first) < 0x110000)
      ∨ r.first = r.last ∧ (r.first, [r.image]) ∈ asciiUppers := by
    decide +kernel
  rw [CaseRun.map?] at h
  split at h
  · next hin =>
    obtain rfl := Option.some.inj h
    rcases hruns r hr with ⟨hlow, hvalid⟩ | ⟨hsingle, hentry⟩
    · exact Or.inl (le_toNat_ofNat (by omega) (by omega))
    · obtain rfl : n = r.first := by omega
      simpa using Or.inr hentry
  · cases h

/-- **An upper case in ASCII is that of an ASCII character or one of few others.** -/
theorem upperChar_cases {c : Char} (h : ∀ d ∈ upperChar c, d.toNat < 0x80) :
    c.toNat < 0x80
      ∨ ∃ image, (c.toNat, image) ∈ asciiUppers ∧ upperChar c = image.map Char.ofNat := by
  have hspecial : ∀ entry ∈ upperSpecial, (∀ n ∈ entry.2, (Char.ofNat n).toNat < 0x80) →
      entry ∈ asciiUppers := by
    decide +kernel
  refine or_iff_not_imp_left.mpr fun hwide => ?_
  rw [upperChar, if_neg hwide, mapBeyondAscii] at h ⊢
  cases hlookup : upperSpecial.lookup c.toNat with
  | some image =>
    rw [hlookup] at h
    obtain ⟨before, after, hentries, -⟩ := List.lookup_eq_some_iff.mp hlookup
    have hmem : (c.toNat, image) ∈ upperSpecial :=
      hentries ▸ List.mem_append_right _ List.mem_cons_self
    exact ⟨image, hspecial _ hmem fun n hn => h _ (List.mem_map_of_mem hn), rfl⟩
  | none =>
    rw [hlookup] at h
    cases hrun : upperRuns.findSome? (·.map? c.toNat) with
    | none =>
      rw [hrun] at h
      exact absurd (h c (List.mem_singleton_self c)) hwide
    | some image =>
      rw [hrun] at h
      obtain ⟨r, hr, hmap⟩ := List.exists_of_findSome?_eq_some hrun
      have hascii := h _ (List.mem_singleton_self _)
      refine ⟨[image], (map?_cases hr hmap).resolve_left ?_, rfl⟩
      exact Nat.not_le.mpr hascii

end Text

namespace Method

/-! ## Spelling -/

/-- How a text is written so that its upper case is a name: letters in either case, a dotless i for
an I, a long s for an S, and a ligature for S and T. -/
inductive Spells : List Char → List Char → Prop where
  | nil : Spells [] []
  | letter {c d : Char} {cs ds : List Char} (hc : c.toUpper = d) (h : Spells cs ds) :
      Spells (c :: cs) (d :: ds)
  | dotlessI {cs ds : List Char} (h : Spells cs ds) : Spells ('\u0131' :: cs) ('I' :: ds)
  | longS {cs ds : List Char} (h : Spells cs ds) : Spells ('\u017f' :: cs) ('S' :: ds)
  | ligature {c : Char} {cs ds : List Char} (hc : c = '\ufb05' ∨ c = '\ufb06')
      (h : Spells cs ds) : Spells (c :: cs) ('S' :: 'T' :: ds)

/-- A text as names are: in ASCII, without an F and without two S in a row. -/
structure IsPlain (ds : List Char) : Prop where
  ascii : ∀ d ∈ ds, d.toNat < 0x80
  noF : 'F' ∉ ds
  noDoubleS : ¬['S', 'S'] <:+: ds

theorem isPlain_name (m : Method) : IsPlain m.name.toList where
  ascii := name_ascii m
  noF := by cases m <;> decide
  noDoubleS := by cases m <;> decide

theorem IsPlain.of_append {front ds : List Char} (h : IsPlain (front ++ ds)) : IsPlain ds where
  ascii d hd := h.ascii d (List.mem_append_right _ hd)
  noF hF := h.noF (List.mem_append_right _ hF)
  noDoubleS hS := h.noDoubleS (hS.trans (List.suffix_append front ds).isInfix)

theorem flatMap_upperChar_of_spells {cs ds : List Char} (h : Spells cs ds)
    (hds : ∀ d ∈ ds, d.toNat < 0x80) : cs.flatMap Text.upperChar = ds := by
  induction h with
  | nil => rfl
  | letter hc _ ih =>
    obtain ⟨hd, hds⟩ := List.forall_mem_cons.mp hds
    have hascii := Text.toNat_lt_of_toUpper (hc.symm ▸ hd)
    rw [List.flatMap_cons, Text.upperChar_of_lt hascii, hc, ih hds]
    rfl
  | dotlessI _ ih =>
    have himage : Text.upperChar '\u0131' = ['I'] := by decide
    rw [List.flatMap_cons, himage, ih (List.forall_mem_cons.mp hds).2]
    rfl
  | longS _ ih =>
    have himage : Text.upperChar '\u017f' = ['S'] := by decide
    rw [List.flatMap_cons, himage, ih (List.forall_mem_cons.mp hds).2]
    rfl
  | @ligature c _ _ hc _ ih =>
    have himage : Text.upperChar c = ['S', 'T'] := by
      rcases hc with rfl | rfl <;> decide
    rw [List.flatMap_cons, himage, ih fun d hd => hds d (by simp [hd])]
    rfl

/-- A character whose upper case begins a name is a letter or one of the look-alikes. -/
theorem spells_cons {c : Char} {cs ds : List Char} (h : IsPlain (Text.upperChar c ++ ds))
    (hds : Spells cs ds) : Spells (c :: cs) (Text.upperChar c ++ ds) := by
  have hascii : ∀ d ∈ Text.upperChar c, d.toNat < 0x80 := fun d hd =>
    h.ascii d (List.mem_append_left _ hd)
  rcases Text.upperChar_cases hascii with hc | ⟨image, hentry, himage⟩
  · rw [Text.upperChar_of_lt hc]
    exact .letter rfl hds
  have hkinds : ∀ entry ∈ Text.asciiUppers, 0x46 ∈ entry.2 ∨ entry.2 = [0x53, 0x53]
      ∨ entry = (0x131, [0x49]) ∨ entry = (0x17F, [0x53])
      ∨ entry = (0xFB05, [0x53, 0x54]) ∨ entry = (0xFB06, [0x53, 0x54]) := by
    decide
  have hchar : c = Char.ofNat c.toNat := (Char.ofNat_toNat c).symm
  rw [himage] at h ⊢
  rcases hkinds _ hentry with hF | hdouble | hone
  · exact absurd (List.mem_append_left _ (List.mem_map_of_mem hF)) h.noF
  · obtain rfl : image = [0x53, 0x53] := hdouble
    exact absurd (List.prefix_append _ _).isInfix h.noDoubleS
  · simp only [Prod.mk.injEq] at hone
    rcases hone with ⟨hn, rfl⟩ | ⟨hn, rfl⟩ | ⟨hn, rfl⟩ | ⟨hn, rfl⟩ <;> rw [hn] at hchar
    · exact hchar ▸ .dotlessI hds
    · exact hchar ▸ .longS hds
    · exact .ligature (Or.inl hchar) hds
    · exact .ligature (Or.inr hchar) hds

/-- **The upper case of a text is a name if and only if it spells the name.** -/
theorem flatMap_upperChar_eq_iff {cs ds : List Char} (h : IsPlain ds) :
    cs.flatMap Text.upperChar = ds ↔ Spells cs ds := by
  refine ⟨fun hupper => ?_, fun hs => flatMap_upperChar_of_spells hs h.ascii⟩
  induction cs generalizing ds with
  | nil => exact hupper ▸ .nil
  | cons c cs ih =>
    subst hupper
    rw [List.flatMap_cons] at h ⊢
    exact spells_cons h (ih h.of_append rfl)

/-- Whether a token is written so that it names a method. -/
def Names (token : String) (m : Method) : Prop := Spells token.toList m.name.toList

/-- Whether a token is the name of a method but for the case of its letters. -/
def IsVariant (token : String) (m : Method) : Prop :=
  token.toList.map Char.toUpper = m.name.toList

theorem upper_eq_name_iff {token : String} {m : Method} :
    Text.upper token = m.name ↔ Names token m := by
  rw [Text.upper, ← String.toList_inj, String.toList_ofList,
    flatMap_upperChar_eq_iff (isPlain_name m), Names]

/-- **A token is looked up as the method that it names.** -/
theorem ofToken?_eq_some_iff {token : String} {m : Method} :
    ofToken? token = some m ↔ Names token m := by
  rw [← upper_eq_name_iff]
  constructor
  · intro h
    simpa [eq_comm] using List.find?_some h
  · intro h
    rw [ofToken?, h, find?_all_name]

theorem ofToken?_eq_none_iff {token : String} :
    ofToken? token = none ↔ ∀ m, ¬Names token m := by
  simp only [Option.eq_none_iff_forall_ne_some, ne_eq, ofToken?_eq_some_iff]

theorem ofToken_eq_ok_iff {token : String} {m : Method} :
    ofToken (some token) = .ok m ↔ Names token m := by
  rw [← ofToken?_eq_some_iff, ofToken, Option.bind_some]
  split <;> simp_all

theorem ofToken_eq_error_iff {token : String} :
    ofToken (some token) = .error ⟨some token⟩ ↔ ∀ m, ¬Names token m := by
  rw [← ofToken?_eq_none_iff, ofToken, Option.bind_some]
  split <;> simp_all

/-! ## Tokens that are no variants -/

/-- The characters beyond ASCII in tokens that name a method. -/
def lookAlikes : List Char := ['\u0131', '\u017f', '\ufb05', '\ufb06']

theorem le_toNat_of_mem_lookAlikes {c : Char} (h : c ∈ lookAlikes) : 0x80 ≤ c.toNat := by
  have hall : lookAlikes.all (0x80 ≤ ·.toNat) = true := by decide
  exact of_decide_eq_true (List.all_eq_true.mp hall c h)

/-- A text that spells a name without look-alikes is the name but for the case of its letters. -/
theorem Spells.map_toUpper {cs ds : List Char} (h : Spells cs ds) (hcs : ∀ c ∈ cs, c ∉ lookAlikes) :
    cs.map Char.toUpper = ds := by
  induction h with
  | nil => rfl
  | letter hc _ ih =>
    rw [List.map_cons, hc, ih (List.forall_mem_cons.mp hcs).2]
  | dotlessI => exact absurd (by decide) (hcs _ List.mem_cons_self)
  | longS => exact absurd (by decide) (hcs _ List.mem_cons_self)
  | ligature hc =>
    refine absurd ?_ (hcs _ List.mem_cons_self)
    rcases hc with rfl | rfl <;> decide

/-- Look-alikes stand for I and S alone. -/
theorem Spells.not_mem_lookAlikes {cs ds : List Char} (h : Spells cs ds)
    (hds : ∀ d ∈ ds, d ≠ 'I' ∧ d ≠ 'S' ∧ d.toNat < 0x80) : ∀ c ∈ cs, c ∉ lookAlikes := by
  induction h with
  | nil => simp
  | letter hc _ ih =>
    obtain ⟨⟨-, -, hd⟩, hds⟩ := List.forall_mem_cons.mp hds
    refine List.forall_mem_cons.mpr ⟨fun hlook => ?_, ih hds⟩
    exact absurd (Text.toNat_lt_of_toUpper (hc.symm ▸ hd))
      (Nat.not_lt.mpr (le_toNat_of_mem_lookAlikes hlook))
  | dotlessI => exact absurd rfl (hds _ List.mem_cons_self).1
  | longS => exact absurd rfl (hds _ List.mem_cons_self).2.1
  | ligature => exact absurd rfl (hds _ List.mem_cons_self).2.1

theorem IsVariant.not_mem_lookAlikes {token : String} {m : Method} (h : IsVariant token m) :
    ∀ c ∈ token.toList, c ∉ lookAlikes := by
  intro c hc hlook
  have hname : c.toUpper ∈ m.name.toList := h ▸ List.mem_map_of_mem hc
  exact absurd (Text.toNat_lt_of_toUpper (name_ascii m _ hname))
    (Nat.not_lt.mpr (le_toNat_of_mem_lookAlikes hlook))

/-- **The variants of a name are the tokens without look-alikes that name the method.** -/
theorem isVariant_iff {token : String} {m : Method} :
    IsVariant token m ↔ Names token m ∧ ∀ c ∈ token.toList, c ∉ lookAlikes :=
  ⟨fun h => ⟨ofToken?_eq_some_iff.mp (ofToken?_of_toUpper h), h.not_mem_lookAlikes⟩,
    fun ⟨hnames, hplain⟩ => Spells.map_toUpper hnames hplain⟩

theorem Names.post_or_options {token : String} {m : Method} (h : Names token m)
    (hlook : ∃ c ∈ token.toList, c ∈ lookAlikes) : m = .post ∨ m = .options := by
  obtain ⟨c, hc, hmem⟩ := hlook
  by_contra hother
  rw [not_or] at hother
  have hletters : 'I' ∉ m.name.toList ∧ 'S' ∉ m.name.toList := by
    cases m with
    | post => exact absurd rfl hother.1
    | options => exact absurd rfl hother.2
    | _ => decide
  refine Spells.not_mem_lookAlikes h (fun d hd => ⟨?_, ?_, name_ascii m d hd⟩) c hc hmem
  · rintro rfl
    exact hletters.1 hd
  · rintro rfl
    exact hletters.2 hd

end Method

/-! ## Where methods are accepted -/

open Method (Names)

namespace Wire.RequestLine

variable {line token target version : String} {more : List String}

theorem ofText_eq_ok_iff (h : Text.splitOn ' ' line = token :: target :: version :: more)
    {m : Method} : ofText line = .ok ⟨m, target, version⟩ ↔ Names token m := by
  rw [← Method.ofToken?_eq_some_iff, ofText, h]
  cases hm : Method.ofToken? token <;> simp [hm]

theorem ofText_eq_unknown_iff (h : Text.splitOn ' ' line = token :: target :: version :: more) :
    ofText line = .error (.unknownMethod token) ↔ ∀ m, ¬Names token m := by
  rw [← Method.ofToken?_eq_none_iff, ofText, h]
  cases hm : Method.ofToken? token <;> simp [hm]

end Wire.RequestLine

/-- A callable handler is refused for its method before the template is looked at. -/
theorem RouteTable.add_eq_unknown_iff {η : Type} (t : RouteTable η) (view : View)
    (token path : String) (handler : η) :
    t.add view (some token) path (.function handler) = .error (.unknownMethod ⟨some token⟩)
      ↔ ∀ m, ¬Names token m := by
  rw [← Method.ofToken_eq_error_iff]
  constructor
  · intro h
    cases hm : Method.ofToken (some token) with
    | error e =>
      simp only [add, hm] at h
      cases h
      rfl
    | ok m =>
      cases hts : tokens view path with
      | error e =>
        simp only [add, hm, hts] at h
        cases h
      | ok ts =>
        rw [add_of_tokens hm hts] at h
        cases h
  · intro hm
    simp only [add, hm]
    rfl

theorem Gateway.serve_of_unknown {ω : Type} (h : Handler ω) {env : Environ}
    (input : Option Memory) {token : String} (hget : Assoc.get? "REQUEST_METHOD" env = some token)
    (hnone : ∀ m, ¬Names token m) : serve h env input = pure (.ok unknownMethod) := by
  have hmethod : (Assoc.get? "REQUEST_METHOD" env).bind Method.ofToken? = none := by
    rw [hget, Option.bind_some, Method.ofToken?_eq_none_iff.mpr hnone]
  simp only [serve, hmethod]

namespace Method

/-- **What is accepted as a method.** A token is looked up as the method that it names, in upper
case: the name itself in any casing of its letters, and for `POST` and `OPTIONS` a token with
look-alikes as well. On the wire, for a request that is made, for a route and behind a gateway a
token is taken as the method that it names, and one that names none is reported as unknown, behind
a gateway with 405. -/
theorem tokens_accepted (token : String) :
    (∀ m, ofToken? token = some m ↔ Names token m)
    ∧ (∀ m, IsVariant token m ↔ Names token m ∧ ∀ c ∈ token.toList, c ∉ lookAlikes)
    ∧ (∀ m, Names token m → (∃ c ∈ token.toList, c ∈ lookAlikes) → m = .post ∨ m = .options)
    ∧ (∀ line target version more, Text.splitOn ' ' line = token :: target :: version :: more →
      (∀ m, Wire.RequestLine.ofText line = .ok ⟨m, target, version⟩ ↔ Names token m)
      ∧ (Wire.RequestLine.ofText line = .error (.unknownMethod token) ↔ ∀ m, ¬Names token m))
    ∧ ((∀ m, ofToken (some token) = .ok m ↔ Names token m)
      ∧ (ofToken (some token) = .error ⟨some token⟩ ↔ ∀ m, ¬Names token m))
    ∧ (∀ {η : Type} (t : RouteTable η) view path (handler : η),
      (∀ m ts, Names token m → RouteTable.tokens view path = .ok ts →
        t.add view (some token) path (.function handler) = .ok (t.insert m ts handler))
      ∧ (t.add view (some token) path (.function handler) = .error (.unknownMethod ⟨some token⟩)
        ↔ ∀ m, ¬Names token m))
    ∧ ∀ {ω : Type} (h : Handler ω) (env : Gateway.Environ) input,
      Assoc.get? "REQUEST_METHOD" env = some token →
      (∀ m request r j j', Names token m → env.request input m = .ok request →
        (h.invoke request).run j = (.response r, j') →
        (Gateway.serve h env input).run j = (.ok (.of r), j'))
      ∧ ((∀ m, ¬Names token m) → Gateway.serve h env input = pure (.ok Gateway.unknownMethod)) := by
  refine ⟨fun _ => ofToken?_eq_some_iff, fun _ => isVariant_iff, fun _ => Names.post_or_options,
    ?wire, ⟨fun _ => ofToken_eq_ok_iff, ofToken_eq_error_iff⟩, ?route, ?gateway⟩
  case wire =>
    intro line target version more h
    exact ⟨fun m => Wire.RequestLine.ofText_eq_ok_iff h, Wire.RequestLine.ofText_eq_unknown_iff h⟩
  case route =>
    intro η t view path handler
    refine ⟨fun m ts hm hts => ?_, t.add_eq_unknown_iff view token path handler⟩
    exact RouteTable.add_of_tokens (ofToken_eq_ok_iff.mpr hm) hts t handler
  case gateway =>
    intro ω h env input hget
    refine ⟨fun m request r j j' hm hrequest hinvoke => ?_, Gateway.serve_of_unknown h input hget⟩
    have hmethod : (Assoc.get? "REQUEST_METHOD" env).bind ofToken? = some m := by
      rw [hget, Option.bind_some, ofToken?_eq_some_iff.mpr hm]
    exact Gateway.serve_of_invoke hmethod hrequest hinvoke

/-- A ligature stands for two letters of `POST`, and a dotless i and a long s for letters of
`OPTIONS`, though neither token is a variant of the name. -/
theorem named_lookAlikes :
    ofToken? "PO\ufb05" = some .post ∧ ¬IsVariant "PO\ufb05" .post
      ∧ ofToken? "opt\u0131on\u017f" = some .options ∧ ¬IsVariant "opt\u0131on\u017f" .options := by
  unfold IsVariant
  decide

end Method

end HttpKit
