import HttpKit.Proofs.Server.Exchange
import HttpKit.Proofs.Wire.Grammar

/-!
# Requests that are refused

Bytes that are ill-formed are refused as malformed. Of the bytes that are not, only those are
refused that declare a length which is not read: it has too many digits, or it is too large to be
counted (`LengthFault`). Such a request is not malformed, so that the server does not pass over it
in silence but takes it for a failure of its own.

## How the argument goes

* the length is the only thing that is looked at after the head (`readRequest_cases`), so that
  `requestOf_eq_error_iff` follows from what lengths come to (`outcomeOn_eq_error_iff`)
* the stream of a connection delivers bytes as memory does (`readRequest_stream`), by induction on
  what is left of them
* a request that is refused ends the exchange in which it is read (`on_serve_of_refused`)
-/

namespace HttpKit

namespace Wire

/-! ## Declared lengths that are not read -/

/-- What is wrong with a declared length that is not read, and what is said about it. -/
inductive LengthFault (bytes : Bytes) : ParseError → Prop where
  | tooManyDigits {value : String} {digits : List Char}
      (h : (headersOf bytes).get? "Content-Length" = some value)
      (hd : IsDigits (Text.trim value).toList digits) (hmany : digitLimit < digits.length) :
      LengthFault bytes (.length (.tooLong digits.length))
  | tooLarge {length : Nat} (h : Declares ((headersOf bytes).get? "Content-Length") length)
      (hlarge : countBound ≤ length) : LengthFault bytes (.read .countTooLarge)

theorem LengthFault.ne_malformed {bytes : Bytes} {e : ParseError} (h : LengthFault bytes e)
    (cause : Malformed) : e ≠ .malformed cause := by
  cases h <;> simp

theorem outcomeOn_eq_error_iff {line : RequestLine} {client : Option Address} {bytes : Bytes}
    {e : ParseError} : (outcomeOn line client bytes).1 = .error e ↔ LengthFault bytes e := by
  rw [outcomeOn]
  cases hd : declaredLength ((headersOf bytes).get? "Content-Length") with
  | error fault =>
    -- Nothing is read of the body, so that the first of the two faults is the only one possible.
    obtain ⟨value, digits, hvalue, hdigits, hmany, rfl⟩ := declaredLength_eq_error_iff.mp hd
    constructor
    · rintro ⟨⟩
      exact .tooManyDigits hvalue hdigits hmany
    · intro h
      cases h with
      | tooManyDigits h hd' _ =>
        obtain rfl := Option.some.inj (hvalue.symm.trans h)
        rw [hdigits.eq_withoutPlus, hd'.eq_withoutPlus]
      | tooLarge h _ =>
        rw [declaredLength_eq_ok_iff.mpr h] at hd
        simp at hd
  | ok length =>
    have hdeclares := declaredLength_eq_ok_iff.mp hd
    constructor
    · intro h
      by_cases hl : length < countBound
      · simp [hl] at h
      · simp only [hl, if_false, Except.error.injEq] at h
        subst h
        exact .tooLarge hdeclares (by omega)
    · intro h
      cases h with
      | tooManyDigits hvalue hdigits hmany =>
        have herror := declaredLength_eq_error_iff.mpr ⟨_, _, hvalue, hdigits, hmany, rfl⟩
        rw [hd] at herror
        simp at herror
      | tooLarge h hlarge =>
        obtain rfl : length = _ := Except.ok.inj (hd.symm.trans (declaredLength_eq_ok_iff.mpr h))
        simp [Nat.not_lt.mpr hlarge]

/-- **A request is refused as malformed, or for the length that it declares.** -/
theorem requestOf_eq_error_iff {bytes : Bytes} {client : Option Address} {e : ParseError} :
    (requestOf bytes client = .error e ∧ ∀ cause, e ≠ .malformed cause)
      ↔ ¬IllFormed (64 * 1024) bytes ∧ LengthFault bytes e := by
  have hlimit : 64 * 1024 + 1 < countBound := by decide
  have hdefault : defaultLineLimit = ((64 * 1024 : Nat) : Int) := by decide
  rw [requestOf, hdefault]
  rcases readRequest_cases hlimit client bytes with ⟨hill, cause, hc⟩ | ⟨hwell, line, -, hout⟩
  · rw [hc]
    constructor
    · rintro ⟨h, hne⟩
      exact absurd (Except.error.inj h).symm (hne cause)
    · rintro ⟨hwell, -⟩
      exact absurd hill hwell
  · rw [hout, outcomeOn_eq_error_iff]
    exact ⟨fun h => ⟨hwell, h.1⟩, fun h => ⟨h.2, h.2.ne_malformed⟩⟩

theorem requestOf_malformed_iff {bytes : Bytes} {client : Option Address} :
    (∃ cause, requestOf bytes client = .error (.malformed cause))
      ↔ IllFormed (64 * 1024) bytes := by
  have hlimit : 64 * 1024 + 1 < countBound := by decide
  rcases readRequest_cases hlimit client bytes with ⟨hill, hc⟩ | ⟨hwell, line, -, hout⟩
  · exact ⟨fun _ => hill, fun _ => hc⟩
  · have hne : ∀ cause, requestOf bytes client ≠ .error (.malformed cause) := fun cause h => by
      have herror : (outcomeOn line client bytes).1 = .error (.malformed cause) :=
        (congrArg Prod.fst hout).symm.trans h
      exact (outcomeOn_eq_error_iff.mp herror).ne_malformed cause rfl
    exact ⟨fun ⟨cause, h⟩ => absurd h (hne cause), fun hill => absurd hill hwell⟩

/-! ## The bytes of a connection -/

theorem read_stream (limit : Int) (m : Memory) :
    Line.read limit (Stream.memory m) = (Line.read limit m).map id .memory := rfl

theorem readRequestLine_stream (limit : Int) (m : Memory) :
    readRequestLine limit (Stream.memory m) = (readRequestLine limit m).map id .memory := by
  rw [readRequestLine, readRequestLine, read_stream]
  rcases Line.read limit m with ⟨line | _ | e, rest⟩
  · show (if line.isEmpty then _ else _) = Prod.map id Stream.memory (if line.isEmpty then _ else _)
    split <;> rfl
  · rfl
  · rfl

theorem readPairs_stream (limit : Int) (found : List (String × String)) (m : Memory) :
    readPairs limit found (Stream.memory m) = (readPairs limit found m).map id .memory := by
  fun_induction readPairs limit found m with
  | case1 found m e rest h =>
    rw [readPairs]
    split <;> simp_all [read_stream]
  | case2 found m rest h =>
    have hread : Line.read limit (Stream.memory m) = (.ended, .memory rest) := by
      rw [read_stream, h]
      rfl
    exact readPairs_of_ended hread found
  | case3 found m line rest h hempty =>
    have hread : Line.read limit (Stream.memory m) = (.text line, .memory rest) := by
      rw [read_stream, h]
      rfl
    rw [readPairs_of_text hread, if_pos (by simpa using hempty)]
    rfl
  | case4 found m line rest h hempty ih =>
    have hread : Line.read limit (Stream.memory m) = (.text line, .memory rest) := by
      rw [read_stream, h]
      rfl
    rw [readPairs_of_text hread, if_neg (by simpa using hempty), ih]

theorem readParts_stream (missing : Nat) (found : List Bytes) (m : Memory) :
    readParts missing found (Stream.memory m)
      = (readParts missing found m).map id .memory := by
  have hread : ∀ missing (m : Memory), Source.read missing (Stream.memory m)
      = (Source.read missing m).map id .memory := fun _ _ => rfl
  fun_induction readParts missing found m with
  | case1 found m => exact readParts_zero found _
  | case2 missing found m hm fault rest h =>
    exact readParts_of_failed hm (by rw [hread, h]; rfl) found
  | case3 missing found m hm rest h =>
    rw [readParts, if_neg hm]
    split <;> simp_all
  | case4 missing found m hm rest h =>
    rw [readParts_of_data hm (by rw [hread, h]; rfl) found, if_pos rfl]
    rfl
  | case5 missing found m hm part rest h hpart ih =>
    rw [readParts_of_data hm (by rw [hread, h]; rfl) found, if_neg hpart]
    exact ih

/-- **What is read from a connection is what is read from its bytes.** -/
theorem readRequest_stream (limit : Int) (client : Option Address) (m : Memory) :
    readRequest limit client (Stream.memory m)
      = (readRequest limit client m).map id .memory := by
  rw [readRequest, readRequest, readRequestLine_stream]
  rcases readRequestLine limit m with ⟨e | line, m₁⟩
  · rfl
  have hheaders : readHeaders limit (Stream.memory m₁)
      = (readHeaders limit m₁).map id .memory := by
    rw [readHeaders, readHeaders, readPairs_stream]
    rfl
  simp only [Prod.map_apply, id, hheaders]
  rcases readHeaders limit m₁ with ⟨e | headers, m₂⟩
  · rfl
  simp only [Prod.map_apply, id]
  cases declaredLength (headers.get? "Content-Length") with
  | error e => rfl
  | ok length =>
    simp only [readBody, readParts_stream]
    rfl

end Wire

namespace Exchange

variable {ω : Type} {c : Connection}

/-! ## The exchange on a connection -/

/-- A request that is refused ends the exchange in which it is read. -/
theorem on_serve_of_refused {encryption : Option Encryption} {bytes : Bytes} {e : ParseError}
    (ho : c.isOpen = true) (hshaken : ∀ encrypt ∈ encryption, encrypt.shake c.peer = .done)
    (hs : c.peer.stream = some (.memory ⟨bytes⟩))
    (he : Wire.requestOf bytes (some c.peer.address) = .error e) (app : Handler ω)
    (j : Journal ω) :
    (serve app encryption).on c j
      = ((.error (.request e), { c with phase := .reading }), j) := by
  obtain ⟨phase, hshake⟩ : ∃ phase, (shakeHands encryption).on c j
      = ((.ok true, { c with phase }), j) := by
    cases encryption with
    | none => exact ⟨c.phase, rfl⟩
    | some encryption =>
      rw [shakeHands, on_bind_ok (on_peer_of_open ho j), on_bind_ok (on_enter .shaking c j),
        hshaken encryption rfl]
      exact ⟨.new, rfl⟩
  have hread : (Wire.readRequest defaultLineLimit (some c.peer.address)
      (Stream.memory ⟨bytes⟩)).1 = .error e := by
    rw [Wire.readRequest_stream]
    exact he
  have hrefused : readRequest.on { c with phase } j
      = ((.error (.request e), { c with phase := .reading }), j) := by
    have hopen : ({ c with phase := .reading } : Connection).isOpen = true := ho
    rw [readRequest, on_bind_ok (on_enter .reading _ j), on_bind_ok (on_peer_of_open hopen j)]
    simp only [hs, hread]
    rfl
  rw [serve, on_bind_ok hshake, if_pos rfl, answer, on_bind_error hrefused]

/-- **What is not malformed is refused for the length that it declares, and for nothing else.**
Bytes are refused as malformed exactly when they are ill-formed. Others are refused exactly when the
length that they declare is not read, and whoever reads them from a connection breaks off with this
and not with a malformed request. -/
theorem refusals (bytes : Bytes) :
    (∀ client, (∃ cause, Wire.requestOf bytes client = .error (.malformed cause))
        ↔ Wire.IllFormed (64 * 1024) bytes)
    ∧ (∀ client e, (Wire.requestOf bytes client = .error e ∧ ∀ cause, e ≠ .malformed cause)
        ↔ ¬Wire.IllFormed (64 * 1024) bytes ∧ Wire.LengthFault bytes e)
    ∧ ∀ (app : Handler ω) (encryption : Option Encryption) (c : Connection) (j : Journal ω)
        (e : ParseError), c.isOpen = true →
        (∀ encrypt ∈ encryption, encrypt.shake c.peer = .done) →
        c.peer.stream = some (.memory ⟨bytes⟩) →
        Wire.requestOf bytes (some c.peer.address) = .error e →
        (serve app encryption).on c j
          = ((.error (.request e), { c with phase := .reading }), j) := by
  refine ⟨fun client => ?_, fun client e => Wire.requestOf_eq_error_iff,
    fun app encryption c j e ho hshaken hs he => on_serve_of_refused ho hshaken hs he app j⟩
  exact Wire.requestOf_malformed_iff

/-- A request whose declared length is the first that cannot be counted. -/
def uncountable : Bytes :=
  utf8 "POST / HTTP/1.1\r\nContent-Length: 9223372036854775808\r\n\r\nabc"

theorem lengthFault_uncountable :
    ¬Wire.IllFormed (64 * 1024) uncountable
      ∧ Wire.LengthFault uncountable (.read .countTooLarge) := by
  have hpieces : Wire.pieces uncountable
      = utf8 "POST / HTTP/1.1\r\n" :: (Wire.pieces uncountable).tail := by decide
  have hline : Wire.requestLine? (Wire.lineOf (utf8 "POST / HTTP/1.1\r\n"))
      = some ⟨.post, "/", "HTTP/1.1"⟩ := rfl
  have hlength : declaredLength ((Wire.headersOf uncountable).get? "Content-Length")
      = .ok countBound := by decide
  exact ⟨Wire.not_illFormed hpieces (by decide) (by decide) hline (by decide),
    .tooLarge (declaredLength_eq_ok_iff.mp hlength) (Nat.le_refl _)⟩

theorem requestOf_uncountable :
    Wire.requestOf uncountable none = .error (.read .countTooLarge) :=
  (Wire.requestOf_eq_error_iff.mpr lengthFault_uncountable).1

/-- A connection that brings it. -/
def uncountableClient : Connection :=
  .ofPeer ⟨[.text "192.0.2.7", .int 50000], some (.memory ⟨uncountable⟩), none, none, none⟩

theorem serve_uncountable :
    uncountableClient.isOpen = true
      ∧ (∀ encrypt ∈ (none : Option Encryption), encrypt.shake uncountableClient.peer = .done)
      ∧ uncountableClient.peer.stream = some (.memory ⟨uncountable⟩)
      ∧ Wire.requestOf uncountable (some uncountableClient.peer.address)
          = .error (.read .countTooLarge)
      ∧ (serve (fun _ => return .nothing : Handler Unit) none).on uncountableClient
            ⟨⟨[], [], ""⟩, [], ()⟩
          = ((.error (.request (.read .countTooLarge)),
              { uncountableClient with phase := .reading }), ⟨⟨[], [], ""⟩, [], ()⟩) := by
  have hrefused : Wire.requestOf uncountable (some uncountableClient.peer.address)
      = .error (.read .countTooLarge) :=
    (((refusals uncountable (ω := Unit)).2.1 _ _).mpr lengthFault_uncountable).1
  have hshaken : ∀ encrypt ∈ (none : Option Encryption),
      encrypt.shake uncountableClient.peer = .done := by simp
  exact ⟨rfl, hshaken, rfl, hrefused,
    (refusals uncountable).2.2 _ none uncountableClient _ _ rfl hshaken rfl hrefused⟩

end Exchange

end HttpKit
