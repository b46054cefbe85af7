import HttpKit.Gateway.Environ
import HttpKit.Proofs.Headers.OrderedMap
import HttpKit.Proofs.Numeral.Whole
import HttpKit.Proofs.Wire.Grammar

/-!
# The body and the length that is declared for it

A gateway's body is as long as a variable says, and a handler sees the length that the headers
declare. The variable is read as a whole number, the header in the strict way, and the header may be
that of another variable. Whether the body is the one that is declared is `Request.BodyDeclared`.

## How the argument goes

* the header that is seen is the last variable that is read as it (`Environ.get?_headers`), and the
  one variable that gives the length if there is no other (`Environ.lengthField?_of_sole`)
* the body is cut off at the length of the variable (`Environ.body_of_ok`), so that two lengths are
  compared, which are the same unless the value is misread (`Numeral.eq_lengthOf_iff`)

On a connection there is one length for both (`Wire.bodyDeclared_readRequest`).
-/

namespace HttpKit

/-- Whether a request has the body that its headers declare, of the bytes that were offered. -/
def Request.BodyDeclared (r : Request) (offered : Bytes) : Prop :=
  ∃ n, r.contentLength = .ok n ∧ r.body = offered.take n

theorem Request.bodyDeclared_iff {r : Request} {offered : Bytes} {n : Nat}
    (h : r.contentLength = .ok n) : r.BodyDeclared offered ↔ r.body = offered.take n := by
  constructor
  · rintro ⟨m, hm, htake⟩
    obtain rfl := Except.ok.inj (h.symm.trans hm)
    exact htake
  · exact fun htake => ⟨n, h, htake⟩

/-- **What is read from a connection has the body that it declares.** -/
theorem Wire.bodyDeclared_readRequest {limit : Nat} {client : Option Address} {bytes : Bytes}
    {r : Request} {rest : Memory}
    (h : readRequest (limit : Int) client (Memory.mk bytes) = (.ok r, rest)) :
    r.BodyDeclared (bodyBytes bytes) := by
  by_cases hlimit : limit + 1 < countBound
  · rcases readRequest_cases hlimit client bytes with ⟨-, cause, hmalformed⟩ | ⟨-, line, -, hread⟩
    · rw [h] at hmalformed
      cases hmalformed
    · rw [h, outcomeOn] at hread
      split at hread
      · cases hread
      next length hlength =>
      split at hread
      · cases hread
        exact ⟨length, hlength, rfl⟩
      · cases hread
  · have hnone := readRequest_of_countBound_le (Nat.not_lt.mp hlimit) client bytes
    rw [h] at hnone
    cases hnone

namespace Gateway

/-- The bytes that a gateway offers as the body. -/
def offered (input : Option Memory) : Bytes := (input.map Memory.rest).getD []

namespace Environ

/-- The value of the header that declares the length of the body: that of the last variable that is
read as it. -/
def lengthField? (env : Environ) : Option String :=
  ((env.filterMap header?).filter fun p => SameName p.1 "Content-Length").getLast?.map Prod.snd

/-- Whether no other variable is read as the header that declares the length of the body. -/
def SoleLength (env : Environ) : Prop :=
  ∀ entry ∈ env, ∀ pair ∈ header? entry, SameName pair.1 "Content-Length" →
    entry.1 = "CONTENT_LENGTH"

variable {env : Environ}

theorem get?_headers (env : Environ) : env.headers.get? "Content-Length" = env.lengthField? :=
  Headers.get?_ofList_eq_getLast? _ _

theorem bodyLength_eq (env : Environ) :
    env.bodyLength = Numeral.lengthOf ((env.nonempty? "CONTENT_LENGTH").getD "0") := rfl

/-- **The body is as much of what is offered as the variable says.** -/
theorem body_of_ok {input : Option Memory} {bytes : Bytes} (h : env.body input = .ok bytes) :
    bytes = (offered input).take env.bodyLength := by
  cases input with
  | none =>
    cases h
    exact List.take_nil.symm
  | some memory =>
    rw [body] at h
    split at h
    · next h0 =>
      cases h
      rw [h0, List.take_zero]
    · rw [Memory.read] at h
      split at h
      · next bytes' hread =>
        cases h
        split at hread
        · cases hread
        · exact (Delivery.data.inj hread).symm
      · next hread => split at hread <;> cases hread
      · cases h

theorem request_of_ok {input : Option Memory} {method : Method} {r : Request}
    (h : env.request input method = .ok r) :
    r.body = (offered input).take env.bodyLength ∧ r.headers = env.headers := by
  rw [request] at h
  cases htarget : env.target with
  | error e => rw [htarget] at h; cases h
  | ok target =>
    cases hclient : env.client with
    | error e => rw [htarget, hclient] at h; cases h
    | ok client =>
      cases hbody : env.body input with
      | error e => rw [htarget, hclient, hbody] at h; cases h
      | ok bytes =>
        rw [htarget, hclient, hbody] at h
        cases h
        exact ⟨body_of_ok hbody, rfl⟩

/-! ## The header that declares the length -/

/-- If something is read from the variable of one name alone, it is read last. -/
theorem getLast?_filterMap_of_sole {α : Type} {read : String × String → Option α} {name : String}
    (hnames : (env.map Prod.fst).Nodup) (h : ∀ entry ∈ env, entry.1 ≠ name → read entry = none) :
    (env.filterMap read).getLast? = (env.find? (·.1 = name)).bind read := by
  induction env with
  | nil => rfl
  | cons entry env ih =>
    rw [List.map_cons, List.nodup_cons] at hnames
    obtain ⟨hfresh, hnames⟩ := hnames
    have hrest := fun e he => h e (List.mem_cons_of_mem _ he)
    by_cases hn : entry.1 = name
    · have hnone : env.filterMap read = [] := List.filterMap_eq_nil_iff.mpr fun e he =>
        hrest e he fun hname => hfresh (List.mem_map.mpr ⟨e, he, hname.trans hn.symm⟩)
      rw [List.find?_cons_of_pos (by simp [hn]), List.filterMap_cons, hnone, Option.bind_some]
      cases read entry <;> rfl
    · rw [List.filterMap_cons_none (h entry List.mem_cons_self hn), ih hnames hrest,
        List.find?_cons_of_neg (by simp [hn])]

theorem header?_contentLength (value : String) : header? ("CONTENT_LENGTH", value)
    = if value = "" then none else some ("Content-Length", value) := by
  have hmark : "HTTP_".toList.isPrefixOf "CONTENT_LENGTH".toList = false := by decide
  have hname : headerName "CONTENT_LENGTH".toList = "Content-Length" := by decide
  rw [header?]
  simp only [hmark, hname, or_true, true_and, Bool.false_eq_true, if_false, ite_not]

/-- Where no other variable is read as the header, it is the variable unless it is empty. -/
theorem lengthField?_of_sole (hnames : (env.map Prod.fst).Nodup) (h : env.SoleLength) :
    env.lengthField? = env.nonempty? "CONTENT_LENGTH" := by
  have hother : ∀ entry ∈ env, entry.1 ≠ "CONTENT_LENGTH" →
      (header? entry).filter (fun p => SameName p.1 "Content-Length") = none := by
    intro entry hentry hname
    rw [Option.filter_eq_none_iff]
    intro pair hpair hsame
    exact hname (h entry hentry pair hpair (of_decide_eq_true hsame))
  rw [lengthField?, List.filter_filterMap, getLast?_filterMap_of_sole hnames hother, nonempty?,
    Assoc.get?]
  cases hfind : env.find? (·.1 = "CONTENT_LENGTH") with
  | none => rfl
  | some entry =>
    obtain ⟨name, value⟩ := entry
    obtain rfl : name = "CONTENT_LENGTH" := by simpa using List.find?_some hfind
    have hsame : SameName "Content-Length" "Content-Length" := rfl
    rw [Option.bind_some, header?_contentLength]
    by_cases hvalue : value = "" <;> simp [hvalue, hsame, Option.filter_some]

/-! ## The body -/

/-- The body is the one that is declared if both lengths are the same, or neither is less than what
is offered. -/
theorem bodyDeclared_request_iff {input : Option Memory} {method : Method} {r : Request}
    (h : env.request input method = .ok r) {n : Nat} (hn : r.contentLength = .ok n) :
    r.BodyDeclared (offered input)
      ↔ n = env.bodyLength
        ∨ (offered input).length ≤ n ∧ (offered input).length ≤ env.bodyLength := by
  rw [Request.bodyDeclared_iff hn, (request_of_ok h).1, List.take_eq_take_iff]
  omega

/-- Without a value both lengths are zero. -/
theorem not_misread_empty : ¬Numeral.Misread "" := by
  rintro (⟨-, -, hc, -⟩ | ⟨-, -, hc, -⟩) <;> cases hc

/-- **Both lengths are the same unless the value is misread**, if they are read from one variable.
-/
theorem eq_bodyLength_iff_of_sole (hnames : (env.map Prod.fst).Nodup) (hsole : env.SoleLength)
    {n : Nat} (h : declaredLength env.lengthField? = .ok n) :
    n = env.bodyLength
      ↔ ∀ value ∈ Assoc.get? "CONTENT_LENGTH" env, ¬Numeral.Misread value := by
  have hnone : Numeral.lengthOf "0" = 0 := by decide
  rw [lengthField?_of_sole hnames hsole, nonempty?] at h
  rw [bodyLength_eq, nonempty?]
  cases hget : Assoc.get? "CONTENT_LENGTH" env with
  | none =>
    rw [hget] at h
    cases h
    exact iff_of_true hnone.symm fun _ hvalue => nomatch hvalue
  | some value =>
    rw [hget] at h
    simp only [Option.mem_def, Option.some.injEq, forall_eq']
    by_cases hvalue : value = ""
    · subst hvalue
      cases h
      exact iff_of_true hnone.symm not_misread_empty
    · have hkept : (some value).filter (· ≠ "") = some value := by simp [hvalue]
      rw [hkept] at h ⊢
      exact Numeral.eq_lengthOf_iff h

/-- Where too many digits are declared no body is read, if there is one variable. -/
theorem bodyLength_of_error (hnames : (env.map Prod.fst).Nodup) (hsole : env.SoleLength)
    {e : NumeralError} (h : declaredLength env.lengthField? = .error e) : env.bodyLength = 0 := by
  rw [lengthField?_of_sole hnames hsole] at h
  rw [bodyLength_eq]
  cases hvalue : env.nonempty? "CONTENT_LENGTH" with
  | none =>
    rw [hvalue] at h
    cases h
  | some value => exact Numeral.lengthOf_of_declared_error (hvalue ▸ h)

/-- **The body behind a gateway is the one that is declared unless the length is misread.** It is as
much of what is offered as the variable says in the loose way, and the headers declare what the last
variable that is read as the header declares in the strict way. So the body is the one that is
declared if both lengths are the same or neither is less than what is offered. If there is no other
such variable the lengths are the same unless the value is misread, and a length that is refused for
the number of its digits goes with an empty body. What is read from a connection always has the body
that it declares. -/
theorem body_declared_iff (hnames : (env.map Prod.fst).Nodup) (method : Method) :
    (∀ input r, env.request input method = .ok r →
      r.body = (offered input).take env.bodyLength
      ∧ r.contentLength = declaredLength env.lengthField?
      ∧ ∀ n, r.contentLength = .ok n → (r.BodyDeclared (offered input)
        ↔ n = env.bodyLength
          ∨ (offered input).length ≤ n ∧ (offered input).length ≤ env.bodyLength))
    ∧ (env.SoleLength →
      (∀ n, declaredLength env.lengthField? = .ok n → (n = env.bodyLength
        ↔ ∀ value ∈ Assoc.get? "CONTENT_LENGTH" env, ¬Numeral.Misread value))
      ∧ ∀ e, declaredLength env.lengthField? = .error e → env.bodyLength = 0)
    ∧ ∀ (limit : Nat) client bytes r rest,
      Wire.readRequest (limit : Int) client (Memory.mk bytes) = (.ok r, rest) →
      r.BodyDeclared (Wire.bodyBytes bytes) := by
  refine ⟨fun input r h => ?_, fun hsole => ?_, fun _ _ _ _ _ => Wire.bodyDeclared_readRequest⟩
  · obtain ⟨hbody, hheaders⟩ := request_of_ok h
    have hlength : r.contentLength = declaredLength env.lengthField? := by
      rw [Request.contentLength, hheaders, get?_headers]
    exact ⟨hbody, hlength, fun _ => bodyDeclared_request_iff h⟩
  · exact ⟨fun _ => eq_bodyLength_iff_of_sole hnames hsole,
      fun _ => bodyLength_of_error hnames hsole⟩

/-- Variables whose length has blanks around it and a sign. -/
def paddedEnviron : Environ := [("CONTENT_LENGTH", "\t+3\u00a0"), ("HTTP_HOST", "a")]

theorem body_declared_padded :
    (paddedEnviron.map Prod.fst).Nodup
      ∧ ∃ r, paddedEnviron.request (some ⟨utf8 "abcd"⟩) .post = .ok r
        ∧ r.BodyDeclared (utf8 "abcd") := by
  have hnames : (paddedEnviron.map Prod.fst).Nodup := by decide
  have hlength : declaredLength paddedEnviron.lengthField? = .ok 3 := by decide
  obtain ⟨hrequest, -, -⟩ := body_declared_iff hnames .post
  obtain ⟨-, hr, hdeclared⟩ := hrequest (some ⟨utf8 "abcd"⟩) _ rfl
  exact ⟨hnames, _, rfl, (hdeclared 3 (hr.trans hlength)).mpr (Or.inl (by decide))⟩

/-- A length with an underscore is read as a number and declares nothing, and the header that is
seen may be that of another variable. -/
theorem body_undeclared :
    (∃ r, request [("CONTENT_LENGTH", "1_0")] (some ⟨utf8 "0123456789abc"⟩) .post = .ok r
      ∧ r.contentLength = .ok 0 ∧ r.body = utf8 "0123456789"
      ∧ ¬r.BodyDeclared (utf8 "0123456789abc"))
    ∧ ∃ r, request [("CONTENT_LENGTH", "1"), ("HTTP_CONTENT_LENGTH", "2")] (some ⟨utf8 "abc"⟩) .post
        = .ok r
      ∧ r.contentLength = .ok 2 ∧ r.body = utf8 "a" ∧ ¬r.BodyDeclared (utf8 "abc") := by
  refine ⟨⟨_, rfl, by decide, by decide, ?_⟩, _, rfl, by decide, by decide, ?_⟩
  · rw [Request.bodyDeclared_iff (n := 0) (by decide)]
    decide
  · rw [Request.bodyDeclared_iff (n := 2) (by decide)]
    decide

end Environ

end Gateway

end HttpKit
