import HttpKit.Gateway
import HttpKit.Proofs.Headers.OrderedMap
import HttpKit.Proofs.Response.Head
import HttpKit.Proofs.Server.Exchange

/-!
# What a gateway is told of a response

A handler behind a gateway is answered for as on a connection, but for the headers that concern the
connection. On a connection the response has the header that closes it written over whatever there
was; a gateway is told neither this header nor any other of the kind. As the one that closes the
connection is left out as well, the two lists differ in nothing else (`headers_answer`).

`exchange_answered` follows the exchange from the reply of the handler to what the gateway is told.
-/

namespace HttpKit.Gateway

/-- Whether a name is that of a header that concerns a connection, in any casing. -/
def IsHopByHop (name : RawText) : Prop := ∃ hop ∈ hopByHop, SameName name hop

instance (name : RawText) : Decidable (IsHopByHop name) :=
  inferInstanceAs (Decidable (∃ hop ∈ hopByHop, SameName name hop))

/-! ## Headers -/

theorem IsHopByHop.congr {a b : RawText} (h : SameName a b) (hb : IsHopByHop b) : IsHopByHop a := by
  obtain ⟨hop, hhop, hname⟩ := hb
  exact ⟨hop, hhop, Eq.trans h hname⟩

/-- **A gateway is told the headers that are written on a connection, but for those that concern
it.** -/
theorem headers_answer (r : Response) :
    (Answer.of r).headers = r.closingHeaders.toList.filter fun p => ¬IsHopByHop p.1 := by
  have hclosing := r.effectiveHeaders.toList_without_insert "close"
    (show ∃ hop ∈ hopByHop, SameName (RawText.ofString "Connection") hop from
      ⟨_, List.mem_cons_self, rfl⟩)
  show (r.effectiveHeaders.without hopByHop).toList = _
  rw [← hclosing, Headers.toList_without]
  rfl

/-- A default is told, under the name that the response has for it. -/
theorem exists_mem_headers {r : Response} {p : RawText × RawText} (hp : p ∈ r.defaultHeaders)
    (hhop : ¬IsHopByHop p.1) : ∃ q ∈ (Answer.of r).headers, SameName q.1 p.1 := by
  have hholds : Entries.Holds r.effectiveHeaders.toList p.1 :=
    Headers.contains_eq_true_iff.mp (r.headers.contains_withDefaults hp)
  obtain ⟨q, hq, hname⟩ := hholds
  have hkept : ¬IsHopByHop q.1 := fun h => hhop (h.congr hname.symm)
  refine ⟨q, ?_, hname⟩
  show q ∈ (r.effectiveHeaders.without hopByHop).toList
  rw [Headers.toList_without]
  exact List.mem_filter.mpr ⟨hq, decide_eq_true hkept⟩

theorem status_answer (r : Response) :
    RawText.ofString "HTTP/1.1 " ++ (Answer.of r).status = r.statusLine := by
  have hstatus : (Answer.of r).status = RawText.ofString (toString r.status ++ " ") ++ r.reason :=
    rfl
  rw [hstatus, ← RawText.append_assoc, ← RawText.ofString_append, ← String.append_assoc]
  rfl

/-! ## The exchange -/

variable {ω γ : Type} {h : Handler ω} {env : Environ} {input : Option Memory} {method : Method}
  {request : Request} {j j' : Journal ω}

theorem serve_of_invoke
    (hmethod : (Assoc.get? "REQUEST_METHOD" env).bind Method.ofToken? = some method)
    (hrequest : env.request input method = .ok request) {r : Response}
    (hinvoke : (h.invoke request).run j = (.response r, j')) :
    (serve h env input).run j = (.ok (.of r), j') := by
  simp only [serve, hmethod, hrequest]
  rw [StateT.run_bind, hinvoke]
  rfl

theorem exchange_of_serve (start : Start γ) (g : γ) {answer : Answer}
    (hserve : (serve h env input).run j = (.ok answer, j')) :
    ((exchange start h env input).run g).run j
      = ((.ok [answer.body], ((start answer.status answer.headers).run g).2), j') := by
  have hlift : ((liftM (serve h env input) :
      StateT γ (StateM (Journal ω)) (Except Refusal Answer)).run g).run j
        = ((.ok answer, g), j') := by
    show ((((serve h env input).run j).1, g), ((serve h env input).run j).2) = _
    rw [hserve]
  rw [exchange, StateT.run_bind, StateT.run_bind, hlift]
  rfl

/-- **A gateway is told the same response as a client on a connection.** The gateway is made to
start a response once and is handed the body. The handler runs as on a connection; the status is
that of the status line, the headers are those that are written but for the ones that concern a
connection, and the body is that of the response. Whatever the casing, no header that concerns a
connection is told, and there always are a length and a type of the content. -/
theorem exchange_answered
    (hmethod : (Assoc.get? "REQUEST_METHOD" env).bind Method.ofToken? = some method)
    (hrequest : env.request input method = .ok request)
    (hreply : ∀ value, ((h request).run.run j).1 ≠ .ok (.datum value)) :
    ∃ r status headers parts j',
      (∀ {γ : Type} (start : Start γ) (g : γ),
        ((exchange start h env input).run g).run j
          = ((.ok parts, ((start status headers).run g).2), j'))
      ∧ (h.invoke request).run j = (.response r, j')
      ∧ Answers ((h request).run.run j).1 r
      ∧ RawText.ofString "HTTP/1.1 " ++ status = r.statusLine
      ∧ headers = r.closingHeaders.toList.filter (fun p => ¬IsHopByHop p.1)
      ∧ parts.flatten = r.body
      ∧ (∀ p ∈ headers, ¬IsHopByHop p.1)
      ∧ (∃ p ∈ headers, SameName p.1 (RawText.ofString "Content-Length"))
      ∧ ∃ p ∈ headers, SameName p.1 (RawText.ofString "Content-Type") := by
  rcases hrun : (h request).run.run j with ⟨outcome, j'⟩
  rw [hrun] at hreply
  obtain ⟨r, hr⟩ | ⟨value, hvalue⟩ := answers_or_datum outcome
  · have hinvoke := Handler.invoke_of_answers hrun hr
    have hserve := serve_of_invoke hmethod hrequest hinvoke
    have hheaders := headers_answer r
    refine ⟨r, (Answer.of r).status, (Answer.of r).headers, [r.body], j',
      fun start g => exchange_of_serve start g hserve, hinvoke, hr, status_answer r, hheaders,
      by simp, fun p hp => ?_, ?_, ?_⟩
    · rw [hheaders] at hp
      exact of_decide_eq_true (List.mem_filter.mp hp).2
    · exact exists_mem_headers (p := (↑"Content-Length", ↑(toString r.body.length)))
        List.mem_cons_self (show ¬IsHopByHop (RawText.ofString "Content-Length") by decide)
    · exact exists_mem_headers (p := (↑"Content-Type", ↑defaultContentType))
        (List.mem_cons_of_mem _ List.mem_cons_self)
        (show ¬IsHopByHop (RawText.ofString "Content-Type") by decide)
  · exact absurd hvalue (hreply value)

/-- A response that would keep the connection, in casings of its own. -/
def keeping : Response where
  status := 299
  reason := "Kept"
  headers := .ofList [("cONNECTION", "keep-alive"), ("X-Trace", "1"), ("kEEP-aLIVE", "5")]
  body := utf8 "é"

/-- The variables of a request for `/a`. -/
def tracedEnviron : Environ :=
  [("REQUEST_METHOD", "get"), ("PATH_INFO", "/a"), ("HTTP_X_TRACE", "1")]

/-- The request that they hold. -/
def tracedRequest : Request where
  method := .get
  target := "/a"
  version := "HTTP/1.1"
  headers := .ofList [("X-Trace", "1")]
  body := []
  captures := []
  client := none

theorem exchange_keeping :
    (Assoc.get? "REQUEST_METHOD" tracedEnviron).bind Method.ofToken? = some .get
    ∧ tracedEnviron.request none .get = .ok tracedRequest
    ∧ ∃ r status headers parts j',
      (∀ {γ : Type} (start : Start γ) (g : γ),
        ((exchange start (fun _ => pure (.response keeping)) tracedEnviron none).run g).run
            ⟨⟨[], [], ""⟩, [], ()⟩
          = ((.ok parts, ((start status headers).run g).2), j'))
      ∧ (Handler.invoke (fun _ => pure (.response keeping)) tracedRequest).run
          ⟨⟨[], [], ""⟩, [], ()⟩ = (.response r, j')
      ∧ Answers (.ok (.response keeping)) r
      ∧ RawText.ofString "HTTP/1.1 " ++ status = r.statusLine
      ∧ headers = r.closingHeaders.toList.filter (fun p => ¬IsHopByHop p.1)
      ∧ parts.flatten = r.body
      ∧ (∀ p ∈ headers, ¬IsHopByHop p.1)
      ∧ (∃ p ∈ headers, SameName p.1 (RawText.ofString "Content-Length"))
      ∧ ∃ p ∈ headers, SameName p.1 (RawText.ofString "Content-Type") := by
  have hmethod : (Assoc.get? "REQUEST_METHOD" tracedEnviron).bind Method.ofToken? = some .get := by
    decide
  have hrequest : tracedEnviron.request none .get = .ok tracedRequest := rfl
  have hreply : ∀ value, (((fun _ => pure (.response keeping) : Handler Unit)
      tracedRequest).run.run ⟨⟨[], [], ""⟩, [], ()⟩).1 ≠ .ok (.datum value) := by
    intro value h
    cases h
  exact ⟨hmethod, hrequest, exchange_answered hmethod hrequest hreply⟩

end HttpKit.Gateway
