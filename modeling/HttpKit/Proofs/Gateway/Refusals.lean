import HttpKit.Proofs.Bytes.Latin1
import HttpKit.Proofs.Gateway.Answer

/-!
# Requests that a gateway gets no answer to

Before a handler is called the variables are made a request, and this may fail: the port of the peer
may be no whole number, and the length of the body may be one that cannot be asked for
(`Unreadable`). A gateway that hands over such variables is told nothing. All others are answered:
an unknown method with 405, any other with what the handler comes to (`Served`).

`exchange_cases` says that the two exclude each other and that there is nothing else, whatever the
other variables hold and whatever the gateway does when the response is started.
-/

namespace HttpKit.Gateway

/-! ## Variables that no request is made of -/

/-- Why no request is made of variables whose path is bytes. -/
inductive Unreadable (env : Environ) (input : Option Memory) : EnvironError → Prop where
  /-- There is a peer, and what is handed over as its port is no whole number. -/
  | port {host : String} {e : NumeralError} (hhost : env.nonempty? "REMOTE_ADDR" = some host)
      (hport : Numeral.whole ((env.nonempty? "REMOTE_PORT").getD "0") = .error e) :
      Unreadable env input (.port e)
  /-- There is a body, and its length is a number that is too large to be asked for. -/
  | length {client : Option Address} {memory : Memory} {n : Nat} (hclient : env.client = .ok client)
      (hinput : input = some memory)
      (hlength : Numeral.whole ((env.nonempty? "CONTENT_LENGTH").getD "0") = .ok (n : Int))
      (hlarge : countBound ≤ n) : Unreadable env input (.body .countTooLarge)

/-- Whether every character of the path stands for a byte. -/
def HasBytePath (env : Environ) : Prop :=
  ∀ c ∈ ((env.nonempty? "PATH_INFO").getD "/").toList, c.toNat < 0x100

instance (env : Environ) : Decidable (HasBytePath env) := List.decidableBAll _ _

namespace Environ

variable {env : Environ} {input : Option Memory} {e : EnvironError}

theorem exists_target (h : HasBytePath env) : ∃ target, env.target = .ok target := by
  obtain ⟨bytes, hbytes⟩ := Latin1.exists_encode? h
  rw [target, hbytes]
  cases env.nonempty? "QUERY_STRING" with
  | none => exact ⟨_, rfl⟩
  | some query => exact ⟨_, rfl⟩

/-- The peer is refused for its port alone. -/
theorem client_eq_error_iff : env.client = .error e
    ↔ ∃ host fault, env.nonempty? "REMOTE_ADDR" = some host
      ∧ Numeral.whole ((env.nonempty? "REMOTE_PORT").getD "0") = .error fault
      ∧ e = .port fault := by
  rw [client]
  cases env.nonempty? "REMOTE_ADDR" with
  | none => simp
  | some host =>
    cases Numeral.whole ((env.nonempty? "REMOTE_PORT").getD "0") with
    | ok port => simp
    | error fault => simp [eq_comm]

theorem countBound_le_bodyLength_iff : countBound ≤ env.bodyLength
    ↔ ∃ n : Nat, Numeral.whole ((env.nonempty? "CONTENT_LENGTH").getD "0") = .ok (n : Int)
      ∧ countBound ≤ n := by
  have hpos : 0 < countBound := by decide
  unfold bodyLength
  cases Numeral.whole ((env.nonempty? "CONTENT_LENGTH").getD "0") with
  | error fault => simp [Nat.not_le.mpr hpos]
  | ok length =>
    simp only [Except.ok.injEq]
    constructor
    · intro h
      exact ⟨length.toNat, by omega, h⟩
    · rintro ⟨n, rfl, h⟩
      rwa [Int.toNat_natCast]

/-- A body is refused for its length alone. -/
theorem body_eq_error_iff : env.body input = .error e
    ↔ (∃ memory, input = some memory) ∧ countBound ≤ env.bodyLength
      ∧ e = .body .countTooLarge := by
  have hpos : 0 < countBound := by decide
  cases input with
  | none => simp [body]
  | some memory =>
    rw [body]
    by_cases h0 : env.bodyLength = 0
    · rw [if_pos h0]
      simp [h0, Nat.not_le.mpr hpos]
    · rw [if_neg h0, Memory.read]
      by_cases hlarge : countBound ≤ env.bodyLength
      · simp [hlarge, eq_comm]
      · simp [hlarge, Memory.take]

/-- **A request is refused for the port of the peer or for the length of the body.** -/
theorem request_eq_error_iff (h : HasBytePath env) (method : Method) :
    env.request input method = .error e ↔ Unreadable env input e := by
  obtain ⟨target, htarget⟩ := exists_target h
  rw [request, htarget]
  cases hclient : env.client with
  | error fault =>
    obtain ⟨host, numeral, hhost, hport, rfl⟩ := client_eq_error_iff.mp hclient
    constructor
    · rintro ⟨⟩
      exact .port hhost hport
    · intro hu
      cases hu with
      | port _ hport' =>
        obtain rfl := Except.error.inj (hport.symm.trans hport')
        rfl
      | length hclient' => exact nomatch hclient.symm.trans hclient'
  | ok client =>
    have hnoPort : ∀ {host fault}, env.nonempty? "REMOTE_ADDR" = some host →
        Numeral.whole ((env.nonempty? "REMOTE_PORT").getD "0") ≠ .error fault := by
      intro host fault hhost hport
      have herror := client_eq_error_iff.mpr ⟨host, fault, hhost, hport, rfl⟩
      exact nomatch hclient.symm.trans herror
    cases hbody : env.body input with
    | error fault =>
      obtain ⟨⟨memory, hinput⟩, hlarge, rfl⟩ := body_eq_error_iff.mp hbody
      obtain ⟨n, hlength, hn⟩ := countBound_le_bodyLength_iff.mp hlarge
      constructor
      · rintro ⟨⟩
        exact .length hclient hinput hlength hn
      · intro hu
        cases hu with
        | port hhost hport => exact absurd hport (hnoPort hhost)
        | length => rfl
    | ok bytes =>
      constructor
      · rintro ⟨⟩
      · intro hu
        cases hu with
        | port hhost hport => exact absurd hport (hnoPort hhost)
        | length _ hinput hlength hn =>
          have herror := body_eq_error_iff.mpr
            ⟨⟨_, hinput⟩, countBound_le_bodyLength_iff.mpr ⟨_, hlength, hn⟩, rfl⟩
          exact nomatch hbody.symm.trans herror

end Environ

/-! ## Answers -/

variable {ω γ : Type} {h : Handler ω} {env : Environ} {input : Option Memory} {j : Journal ω}

/-- The response that a gateway is told of, and the journal after it. -/
inductive Served (h : Handler ω) (env : Environ) (input : Option Memory) (j : Journal ω) :
    Response → Journal ω → Prop where
  /-- A method that is missing or unknown is answered without the handler. -/
  | unknownMethod (hmethod : (Assoc.get? "REQUEST_METHOD" env).bind Method.ofToken? = none) :
      Served h env input j (.text 405 "Method Not Allowed") j
  /-- The handler is called with the request, and its outcome calls for the response. -/
  | handled {method : Method} {request : Request} {outcome : Except Fault Reply} {r : Response}
      {j' : Journal ω}
      (hmethod : (Assoc.get? "REQUEST_METHOD" env).bind Method.ofToken? = some method)
      (hrequest : env.request input method = .ok request)
      (hrun : (h request).run.run j = (outcome, j')) (hr : Answers outcome r) :
      Served h env input j r j'

/-- What is served is what the gateway is told of. -/
theorem Served.serve {r : Response} {j' : Journal ω} (hs : Served h env input j r j') :
    (serve h env input).run j = (.ok (.of r), j') := by
  cases hs with
  | unknownMethod hmethod =>
    simp only [Gateway.serve, hmethod]
    rfl
  | handled hmethod hrequest hrun hr =>
    exact serve_of_invoke hmethod hrequest (Handler.invoke_of_answers hrun hr)

/-- A gateway whose variables no request is made of is told nothing. -/
theorem exchange_of_requestError {method : Method} {e : EnvironError}
    (hmethod : (Assoc.get? "REQUEST_METHOD" env).bind Method.ofToken? = some method)
    (hrequest : env.request input method = .error e) (start : Start γ) (g : γ) :
    ((exchange start h env input).run g).run j = ((.error (.environ e), g), j) := by
  simp only [exchange, serve, hmethod, hrequest]
  rfl

/-- Something is served unless no request is made of the variables. -/
theorem exists_served (hpath : HasBytePath env)
    (hreply : ∀ request value, ((h request).run.run j).1 ≠ .ok (.datum value))
    (hreadable : (Assoc.get? "REQUEST_METHOD" env).bind Method.ofToken? = none
      ∨ ∀ e, ¬Unreadable env input e) : ∃ r j', Served h env input j r j' := by
  cases hmethod : (Assoc.get? "REQUEST_METHOD" env).bind Method.ofToken? with
  | none => exact ⟨_, _, .unknownMethod hmethod⟩
  | some method =>
    have hnone : ∀ e, ¬Unreadable env input e := hreadable.resolve_left (by simp [hmethod])
    cases hrequest : env.request input method with
    | error e => exact absurd ((Environ.request_eq_error_iff hpath method).mp hrequest) (hnone e)
    | ok request =>
      rcases hrun : (h request).run.run j with ⟨outcome, j'⟩
      obtain ⟨r, hr⟩ | ⟨value, hvalue⟩ := answers_or_datum outcome
      · exact ⟨r, j', .handled hmethod hrequest hrun hr⟩
      · exact absurd (by rw [hrun, hvalue]) (hreply request value)

/-- **A gateway is answered unless the port of the peer or the length of the body cannot be read.**
Whatever else the variables hold, the response is started once: with 405 for a method that is
missing or unknown, else with what the handler's outcome calls for, which is 500 for a fault, 204
for nothing and otherwise the response given. Where the method is known but the port or the length
is not read, the response is never started and the handler is not called. -/
theorem exchange_cases (hpath : HasBytePath env)
    (hreply : ∀ request value, ((h request).run.run j).1 ≠ .ok (.datum value)) :
    ((Assoc.get? "REQUEST_METHOD" env).bind Method.ofToken? = none
        ∨ (∀ e, ¬Unreadable env input e) →
      ∃ r j', Served h env input j r j'
        ∧ ∀ {γ : Type} (start : Start γ) (g : γ), ((exchange start h env input).run g).run j
          = ((.ok [r.body],
              ((start (RawText.ofString (toString r.status ++ " ") ++ r.reason)
                (r.effectiveHeaders.without hopByHop).toList).run g).2), j'))
    ∧ ∀ method e, (Assoc.get? "REQUEST_METHOD" env).bind Method.ofToken? = some method →
      Unreadable env input e →
      ∀ {γ : Type} (start : Start γ) (g : γ), ((exchange start h env input).run g).run j
        = ((.error (.environ e), g), j) := by
  constructor
  · intro hreadable
    obtain ⟨r, j', hs⟩ := exists_served hpath hreply hreadable
    exact ⟨r, j', hs, fun start g => exchange_of_serve start g hs.serve⟩
  · intro method e hmethod hu γ start g
    have hrequest := (Environ.request_eq_error_iff hpath method).mpr hu
    exact exchange_of_requestError hmethod hrequest start g

/-- Variables that hold hardly anything as it should be. -/
def oddEnviron : Environ :=
  [("REQUEST_METHOD", "pOsT"), ("PATH_INFO", "/\u00c3\u00a9?"), ("QUERY_STRING", "%zz&&="),
    ("REMOTE_ADDR", "::1"), ("REMOTE_PORT", " +8_0\t"), ("CONTENT_LENGTH", "-x"), ("HTTP_", ":")]

theorem exchange_oddEnviron :
    HasBytePath oddEnviron
    ∧ (∀ request value, (((fun _ => pure .nothing : Handler Unit) request).run.run
        ⟨⟨[], [], ""⟩, [], ()⟩).1 ≠ .ok (.datum value))
    ∧ (∀ e, ¬Unreadable oddEnviron (some ⟨utf8 "abc"⟩) e)
    ∧ ∃ r j', Served (fun _ => pure .nothing) oddEnviron (some ⟨utf8 "abc"⟩)
          ⟨⟨[], [], ""⟩, [], ()⟩ r j'
        ∧ ∀ {γ : Type} (start : Start γ) (g : γ),
          ((exchange start (fun _ => pure .nothing) oddEnviron (some ⟨utf8 "abc"⟩)).run g).run
              ⟨⟨[], [], ""⟩, [], ()⟩
            = ((.ok [r.body],
                ((start (RawText.ofString (toString r.status ++ " ") ++ r.reason)
                  (r.effectiveHeaders.without hopByHop).toList).run g).2), j') := by
  have hpath : HasBytePath oddEnviron := by decide
  have hreply : ∀ request value, (((fun _ => pure .nothing : Handler Unit) request).run.run
      ⟨⟨[], [], ""⟩, [], ()⟩).1 ≠ .ok (.datum value) := by
    intro request value h
    cases h
  have hrequest : ∃ request, oddEnviron.request (some ⟨utf8 "abc"⟩) .post = .ok request :=
    ⟨_, rfl⟩
  have hreadable : ∀ e, ¬Unreadable oddEnviron (some ⟨utf8 "abc"⟩) e := by
    intro e hu
    obtain ⟨request, hok⟩ := hrequest
    exact nomatch hok.symm.trans ((Environ.request_eq_error_iff hpath .post).mpr hu)
  exact ⟨hpath, hreply, hreadable, (exchange_cases hpath hreply).1 (Or.inr hreadable)⟩

/-- Variables whose port is a name. -/
def portNameEnviron : Environ :=
  [("REQUEST_METHOD", "GET"), ("REMOTE_ADDR", "192.0.2.7"), ("REMOTE_PORT", "http")]

/-- Variables whose length of the body is the first that cannot be asked for. -/
def endlessEnviron : Environ :=
  [("REQUEST_METHOD", "POST"), ("CONTENT_LENGTH", "9223372036854775808")]

/-- A port that is a name, or a length that cannot be asked for, leaves a gateway without an answer:
the response is never started. -/
theorem not_started_portName_endless :
    ((exchange (fun _ _ => modify (· + 1)) (fun _ => pure .nothing) portNameEnviron none).run
        0).run ⟨⟨[], [], ""⟩, [], ()⟩
      = ((.error (.environ (.port (.notWhole "http"))), 0), ⟨⟨[], [], ""⟩, [], ()⟩)
    ∧ ((exchange (fun _ _ => modify (· + 1)) (fun _ => pure .nothing) endlessEnviron
        (some ⟨utf8 "abc"⟩)).run 0).run ⟨⟨[], [], ""⟩, [], ()⟩
      = ((.error (.environ (.body .countTooLarge)), 0), ⟨⟨[], [], ""⟩, [], ()⟩) := by
  have hhost : portNameEnviron.nonempty? "REMOTE_ADDR" = some "192.0.2.7" := by decide
  have hport : Unreadable portNameEnviron none (.port (.notWhole "http")) := .port hhost (by decide)
  have hlength : Unreadable endlessEnviron (some ⟨utf8 "abc"⟩) (.body .countTooLarge) :=
    .length rfl rfl (n := countBound) (by decide) (Nat.le_refl _)
  have hget : (Assoc.get? "REQUEST_METHOD" portNameEnviron).bind Method.ofToken? = some .get := by
    decide
  have hpost : (Assoc.get? "REQUEST_METHOD" endlessEnviron).bind Method.ofToken? = some .post := by
    decide
  exact ⟨exchange_of_requestError hget
      ((Environ.request_eq_error_iff (by decide) .get).mpr hport) _ 0,
    exchange_of_requestError hpost
      ((Environ.request_eq_error_iff (by decide) .post).mpr hlength) _ 0⟩

end HttpKit.Gateway
