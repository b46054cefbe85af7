import HttpKit.Proofs.Wire.Reading
import Mathlib.Data.List.Basic
import Mathlib.Data.List.TakeWhile

/-!
# Requests that are waited for in vain

A read that times out counts as the end of the source for whoever waits. It does so for this read
alone: the next one is made as if nothing had happened. A timeout for the request line leaves no
request, and one for the body ends the body, so that nothing is read after it. But a timeout for a
header line only ends the headers, and the body is read from what comes later.

`readRequest_beforeTimeout` says what becomes of a script with timeouts, compared with the same
script cut off before the first of them.

## How the argument goes

* at its end and at a timeout a script reads alike, and only what it leaves differs
  (`read_of_ends`)
* while the lines before the timeout go on, the header loop reaches it; otherwise it ends before it
  and leaves the timeout where it is (`readPairs_of_open`, `readPairs_of_closed`)
* the body loop reads nothing beyond a timeout (`readParts_before`)
-/

namespace HttpKit

namespace Script

/-- The script up to its first timeout. -/
def beforeTimeout (s : Script) : Script := ⟨s.rest.takeWhile (· ≠ .timedOut)⟩

/-- What a script goes on with after its first timeout. -/
def afterTimeout (s : Script) : Script := ⟨(s.rest.dropWhile (· ≠ .timedOut)).tail⟩

end Script

namespace Wire

/-- Whether items are at their end, or go on with a timeout. -/
def Ends (items : List Delivery) : Prop := ∀ d ∈ items.head?, d = .timedOut

/-- Whether every item is a line that is not empty. -/
def AllLines (limit : Int) (items : List Delivery) : Prop :=
  ∀ d ∈ items, ∃ line, Line.ofDelivery limit d = .text line ∧ line ≠ ""

/-- Whether items begin a request and do not end its head. -/
def HeadOpen (limit : Int) (items : List Delivery) : Prop := items ≠ [] ∧ AllLines limit items

variable {limit : Int}

theorem ends_nil : Ends [] := by simp [Ends]

theorem ends_timedOut (items : List Delivery) : Ends (.timedOut :: items) := by simp [Ends]

/-! ## Reads -/

theorem read_script (d : Delivery) (rest : List Delivery) :
    Line.read limit (Script.mk (d :: rest)) = (Line.ofDelivery limit d, ⟨rest⟩) := rfl

/-- At its end and at a timeout a script has no more lines. -/
theorem read_of_ends {items : List Delivery} (h : Ends items) :
    Line.read limit (Script.mk items) = (.ended, ⟨items.tail⟩) := by
  cases items with
  | nil => rfl
  | cons d rest =>
    obtain rfl := h d rfl
    rfl

/-! ## The header loop -/

/-- Lines that go on are read to the end, whatever comes then. -/
theorem readPairs_of_open {front : List Delivery} (h : AllLines limit front) :
    ∀ found : List (String × String), ∃ pairs, ∀ tail, Ends tail →
      readPairs limit found (Script.mk (front ++ tail)) = (.ok pairs, ⟨tail.tail⟩) := by
  induction front with
  | nil => exact fun found => ⟨_, fun tail ht => readPairs_of_ended (read_of_ends ht) found⟩
  | cons d front ih =>
    intro found
    obtain ⟨line, hline, hne⟩ := h d List.mem_cons_self
    obtain ⟨pairs, hpairs⟩ := ih (fun d hd => h d (List.mem_cons_of_mem _ hd))
      ((headerOf? line).toList ++ found)
    refine ⟨pairs, fun tail ht => ?_⟩
    have hread : Line.read limit (Script.mk (d :: front ++ tail))
        = (.text line, ⟨front ++ tail⟩) := by
      rw [List.cons_append, read_script, hline]
    rw [readPairs_of_text hread, if_neg hne, hpairs tail ht]

/-- Among items that are not all lines the loop comes to its end, whatever comes after them. -/
theorem readPairs_of_closed {front : List Delivery} (h : ¬AllLines limit front) :
    ∀ found : List (String × String), ∃ outcome rest, ∀ tail,
      readPairs limit found (Script.mk (front ++ tail)) = (outcome, ⟨rest ++ tail⟩) := by
  induction front with
  | nil => exact absurd (by simp [AllLines]) h
  | cons d front ih =>
    intro found
    cases hline : Line.ofDelivery limit d with
    | failed e =>
      have hread : ∀ tail, Line.read limit (Script.mk (d :: front ++ tail))
          = (.failed e, ⟨front ++ tail⟩) := by
        intro tail
        rw [List.cons_append, read_script, hline]
      exact ⟨.error e, front, fun tail => readPairs_of_failed_eq (hread tail) found⟩
    | ended =>
      refine ⟨.ok found.reverse, front, fun tail => ?_⟩
      have hread : Line.read limit (Script.mk (d :: front ++ tail))
          = (.ended, ⟨front ++ tail⟩) := by
        rw [List.cons_append, read_script, hline]
      exact readPairs_of_ended hread found
    | text line =>
      have hread : ∀ tail, Line.read limit (Script.mk (d :: front ++ tail))
          = (.text line, ⟨front ++ tail⟩) := by
        intro tail
        rw [List.cons_append, read_script, hline]
      by_cases hne : line = ""
      · refine ⟨.ok found.reverse, front, fun tail => ?_⟩
        rw [readPairs_of_text (hread tail), if_pos hne]
      · have hmore : ¬AllLines limit front := fun hall =>
          h (List.forall_mem_cons.mpr ⟨⟨line, hline, hne⟩, hall⟩)
        obtain ⟨outcome, rest, hpairs⟩ := ih hmore ((headerOf? line).toList ++ found)
        refine ⟨outcome, rest, fun tail => ?_⟩
        rw [readPairs_of_text (hread tail), if_neg hne, hpairs tail]

/-! ## The body loop -/

/-- Nothing is read beyond the end of a script or a timeout. -/
theorem readParts_of_ends {items : List Delivery} (h : Ends items) (missing : Nat)
    (found : List Bytes) :
    (readParts missing found (Script.mk items)).1 = .ok found.reverse.flatten := by
  by_cases hm : missing = 0
  · rw [hm, readParts_zero]
  cases items with
  | nil =>
    have hread : Source.read missing (Script.mk []) = (.data [], ⟨[]⟩) := rfl
    rw [readParts_of_data hm hread, if_pos rfl]
  | cons d rest =>
    obtain rfl := h d rfl
    have hread : Source.read missing (Script.mk (.timedOut :: rest)) = (.timedOut, ⟨rest⟩) := rfl
    rw [readParts_of_timedOut hm hread]

/-- **The body does not depend on what follows a timeout.** -/
theorem readParts_before {front tail : List Delivery} (ht : Ends tail) :
    ∀ (missing : Nat) (found : List Bytes),
    (readParts missing found (Script.mk (front ++ tail))).1
      = (readParts missing found (Script.mk front)).1 := by
  induction front with
  | nil =>
    intro missing found
    rw [List.nil_append, readParts_of_ends ht, readParts_of_ends ends_nil]
  | cons d front ih =>
    intro missing found
    by_cases hm : missing = 0
    · rw [hm, readParts_zero, readParts_zero]
    have hread : ∀ rest, Source.read missing (Script.mk (d :: rest)) = (d, ⟨rest⟩) := fun _ => rfl
    rw [List.cons_append]
    cases d with
    | timedOut => rw [readParts_of_timedOut hm (hread _), readParts_of_timedOut hm (hread _)]
    | failed fault => rw [readParts_of_failed hm (hread _), readParts_of_failed hm (hread _)]
    | data part =>
      rw [readParts_of_data hm (hread _), readParts_of_data hm (hread _)]
      split
      · rfl
      · exact ih _ _

/-- What was read is where the body begins. -/
theorem prefix_of_readParts {items : List Delivery} {body : Bytes} :
    ∀ {missing : Nat} {found : List Bytes},
    (readParts missing found (Script.mk items)).1 = .ok body → found.reverse.flatten <+: body := by
  induction items with
  | nil =>
    intro missing found h
    rw [readParts_of_ends ends_nil, Except.ok.injEq] at h
    exact h ▸ List.prefix_rfl
  | cons d rest ih =>
    intro missing found h
    by_cases hm : missing = 0
    · rw [hm, readParts_zero, Except.ok.injEq] at h
      exact h ▸ List.prefix_rfl
    have hread : Source.read missing (Script.mk (d :: rest)) = (d, ⟨rest⟩) := rfl
    cases d with
    | timedOut =>
      rw [readParts_of_timedOut hm hread, Except.ok.injEq] at h
      exact h ▸ List.prefix_rfl
    | failed fault => simp [readParts_of_failed hm hread] at h
    | data part =>
      rw [readParts_of_data hm hread] at h
      split at h
      · rw [Except.ok.injEq] at h
        exact h ▸ List.prefix_rfl
      · have hmore := ih h
        rw [List.reverse_cons, List.flatten_append] at hmore
        exact (List.prefix_append _ _).trans hmore

/-- A body is there without a read if none is declared, and else if nothing comes. -/
theorem readBody_eq_nil_iff (length : Nat) (s : Script) :
    (readBody length s).1 = .ok [] ↔
      length = 0 ∨ ∀ d ∈ s.rest.head?, d = .timedOut ∨ d = .data [] := by
  by_cases h0 : length = 0
  · simp [readBody, h0, readParts_zero]
  obtain ⟨items⟩ := s
  cases items with
  | nil => simp [readBody, readParts_of_ends ends_nil]
  | cons d rest =>
    have hread : Source.read length (Script.mk (d :: rest)) = (d, ⟨rest⟩) := rfl
    rw [readBody]
    cases d with
    | timedOut => simp [readParts_of_timedOut h0 hread]
    | failed fault => simp [readParts_of_failed h0 hread, h0]
    | data part =>
      rw [readParts_of_data h0 hread]
      by_cases hp : part = []
      · simp [hp]
      · have hne : (readParts (length - part.length) [part] (Script.mk rest)).1 ≠ .ok [] :=
          fun hnil => hp (by simpa using prefix_of_readParts hnil)
        simp [hp, h0, hne]

/-! ## Requests -/

variable (client : Option Address)

/-- The request line is the first item. -/
theorem readRequestLine_script (d : Delivery) (rest : List Delivery) :
    readRequestLine limit (Script.mk (d :: rest))
      = ((readRequestLine limit (Script.mk [d])).1, ⟨rest⟩) := by
  rw [readRequestLine, readRequestLine, read_script, read_script]
  cases Line.ofDelivery limit d with
  | failed e => rfl
  | ended => rfl
  | text line =>
    dsimp only
    split <;> rfl

/-- An item that is a request line is a line that is not empty. -/
theorem exists_text_of_requestLine {d : Delivery} {line : RequestLine}
    (h : (readRequestLine limit (Script.mk [d])).1 = .ok line) :
    ∃ text, Line.ofDelivery limit d = .text text ∧ text ≠ "" := by
  rw [readRequestLine, read_script] at h
  cases htext : Line.ofDelivery limit d with
  | failed e => simp [htext] at h
  | ended => simp [htext] at h
  | text text =>
    refine ⟨text, rfl, fun hempty => ?_⟩
    simp [htext, hempty] at h

/-- Where the head ends before a timeout, nothing that follows the timeout counts. -/
theorem readRequest_of_closed {front : List Delivery} (h : ¬HeadOpen limit front)
    {tail : List Delivery} (ht : Ends tail) :
    (readRequest limit client (Script.mk (front ++ tail))).1
      = (readRequest limit client (Script.mk front)).1 := by
  cases front with
  | nil =>
    have herror : ∀ {items}, Ends items →
        (readRequest limit client (Script.mk items)).1 = .error (.malformed .emptyRequestLine) :=
      fun hi => readRequest_of_lineError (by rw [readRequestLine_of_ended (read_of_ends hi)])
    rw [List.nil_append, herror ht, herror ends_nil]
  | cons d front =>
    cases hfirst : (readRequestLine limit (Script.mk [d])).1 with
    | error e =>
      rw [readRequest_of_lineError (by rw [List.cons_append, readRequestLine_script, hfirst]),
        readRequest_of_lineError (by rw [readRequestLine_script, hfirst])]
    | ok line =>
      have hline : ∀ rest, readRequestLine limit (Script.mk (d :: rest)) = (.ok line, ⟨rest⟩) :=
        fun rest => by rw [readRequestLine_script, hfirst]
      have hmore : ¬AllLines limit front := fun hall =>
        h ⟨List.cons_ne_nil d front,
          List.forall_mem_cons.mpr ⟨exists_text_of_requestLine hfirst, hall⟩⟩
      obtain ⟨outcome, rest, hpairs⟩ := readPairs_of_closed hmore []
      have hnil := hpairs []
      rw [List.append_nil, List.append_nil] at hnil
      rw [List.cons_append]
      cases outcome with
      | error e =>
        rw [readRequest_of_headersError (hline _) (readHeaders_of_error (by rw [hpairs])),
          readRequest_of_headersError (hline _) (readHeaders_of_error (by rw [hnil]))]
      | ok pairs =>
        have hheaders := readHeaders_of_ok (hpairs tail)
        have hheaders' := readHeaders_of_ok hnil
        cases hlength : declaredLength ((Headers.ofList pairs).get? "Content-Length") with
        | error e =>
          rw [readRequest_of_lengthError (hline _) hheaders hlength,
            readRequest_of_lengthError (hline _) hheaders' hlength]
        | ok length =>
          have hbody : (readBody length (Script.mk (rest ++ tail))).1
              = (readBody length (Script.mk rest)).1 := readParts_before ht length []
          rw [readRequest_of_body (hline _) hheaders hlength (Prod.eta _).symm,
            readRequest_of_body (hline _) hheaders' hlength (Prod.eta _).symm, hbody]

/-- Where lines go on up to a timeout, the timeout ends the headers, and the body is read after
it. -/
theorem readRequest_of_open {front : List Delivery} (h : HeadOpen limit front) :
    (∃ e, ∀ tail, Ends tail →
        (readRequest limit client (Script.mk (front ++ tail))).1 = .error e)
      ∨ ∃ (r : Request) (length : Nat), r.contentLength = .ok length ∧ r.body = []
        ∧ ∀ tail, Ends tail →
          (readRequest limit client (Script.mk (front ++ tail))).1
            = (readBody length (Script.mk tail.tail)).1.map fun body => { r with body } := by
  obtain ⟨hne, hall⟩ := h
  obtain ⟨d, front, rfl⟩ := List.exists_cons_of_ne_nil hne
  have hmore : AllLines limit front := fun d' hd' => hall d' (List.mem_cons_of_mem _ hd')
  cases hfirst : (readRequestLine limit (Script.mk [d])).1 with
  | error e =>
    exact Or.inl ⟨e, fun tail _ => readRequest_of_lineError (by
      rw [List.cons_append, readRequestLine_script, hfirst])⟩
  | ok line =>
    have hline : ∀ rest, readRequestLine limit (Script.mk (d :: rest)) = (.ok line, ⟨rest⟩) :=
      fun rest => by rw [readRequestLine_script, hfirst]
    obtain ⟨pairs, hpairs⟩ := readPairs_of_open hmore []
    cases hlength : declaredLength ((Headers.ofList pairs).get? "Content-Length") with
    | error e =>
      refine Or.inl ⟨.length e, fun tail ht => ?_⟩
      rw [List.cons_append,
        readRequest_of_lengthError (hline _) (readHeaders_of_ok (hpairs tail ht)) hlength]
    | ok length =>
      refine Or.inr ⟨{ method := line.method, target := line.target, version := line.version
                       headers := .ofList pairs, body := [], captures := [], client := client },
        length, hlength, rfl, fun tail ht => ?_⟩
      rw [List.cons_append, readRequest_of_body (hline _) (readHeaders_of_ok (hpairs tail ht))
        hlength (Prod.eta _).symm]

end Wire

namespace Script

/-- A script is what precedes its first timeout and what begins with it. -/
theorem exists_timeout (s : Script) : ∃ front tail, Wire.Ends tail ∧ s = ⟨front ++ tail⟩
    ∧ s.beforeTimeout = ⟨front⟩ ∧ s.afterTimeout = ⟨tail.tail⟩ := by
  refine ⟨s.rest.takeWhile (· ≠ .timedOut), s.rest.dropWhile (· ≠ .timedOut), fun d hd => ?_,
    congrArg Script.mk List.takeWhile_append_dropWhile.symm, rfl, rfl⟩
  have hnot := List.head?_dropWhile_not (· ≠ Delivery.timedOut) s.rest
  rw [Option.mem_def.mp hd] at hnot
  simpa using hnot

end Script

namespace Wire

/-- **A timeout ends what is waited for, and not the request.** A script is read like the script cut
off before its first timeout if the head ends before it: then the timeout is met in the body, if at
all. If not, what is malformed stays so; but a request gets its body from what follows the timeout,
as long as it declares, so that it is the one that the cut script gives only if no body is declared
or nothing follows at once. -/
theorem readRequest_beforeTimeout (limit : Int) (client : Option Address) (s : Script) :
    (¬HeadOpen limit s.beforeTimeout.rest →
      (readRequest limit client s).1 = (readRequest limit client s.beforeTimeout).1)
    ∧ (HeadOpen limit s.beforeTimeout.rest →
      (∀ e, (readRequest limit client s.beforeTimeout).1 = .error e →
        (readRequest limit client s).1 = .error e)
      ∧ ∀ r, (readRequest limit client s.beforeTimeout).1 = .ok r →
        ∃ length, r.contentLength = .ok length ∧ r.body = []
          ∧ (readRequest limit client s).1
              = (readBody length s.afterTimeout).1.map (fun body => { r with body })
          ∧ ((readRequest limit client s).1 = .ok r ↔
              length = 0 ∨ ∀ d ∈ s.afterTimeout.rest.head?, d = .timedOut ∨ d = .data [])) := by
  obtain ⟨front, tail, ht, hs, hbefore, hafter⟩ := s.exists_timeout
  rw [hbefore, hafter, hs]
  dsimp only
  refine ⟨fun hclosed => readRequest_of_closed client hclosed ht, fun hopen => ?_⟩
  rcases readRequest_of_open client hopen with ⟨e, herror⟩ | ⟨r, length, hlength, hbody, hread⟩
  · have hcut := herror [] ends_nil
    rw [List.append_nil] at hcut
    rw [hcut, herror tail ht]
    exact ⟨fun e' he' => he', fun r' hr' => by simp at hr'⟩
  · have hsame : { r with body := [] } = r := by rw [← hbody]
    have hcut : (readRequest limit client (Script.mk front)).1 = .ok r := by
      have hnil := hread [] ends_nil
      have hnothing : (readBody length (Script.mk [])).1 = .ok [] := by
        simp [readBody_eq_nil_iff]
      rw [List.append_nil, List.tail_nil, hnothing] at hnil
      rw [hnil, Except.map, hsame]
    rw [hcut, hread tail ht]
    refine ⟨fun e he => by simp at he, fun r' hr' => ?_⟩
    obtain rfl : r = r' := by simpa using hr'
    refine ⟨length, hlength, hbody, rfl, ?_⟩
    rw [← readBody_eq_nil_iff length ⟨tail.tail⟩]
    cases (readBody length (Script.mk tail.tail)).1 with
    | error e => simp [Except.map]
    | ok body =>
      simp only [Except.map, Except.ok.injEq]
      exact ⟨fun h => by rw [← hbody, ← h], fun h => by rw [h, hsame]⟩

/-- A request line, a header line, and a timeout before the line that would end the headers. What
the header declares comes after the timeout. -/
def interrupted : Script :=
  ⟨[.data (utf8 "POST / HTTP/1.1\r\n"), .data (utf8 "Content-Length: 5\r\n"), .timedOut,
    .data (utf8 "hello")]⟩

/-- What comes after a timeout may be part of the request. -/
theorem readRequest_interrupted :
    ∃ r : Request, (readRequest defaultLineLimit none interrupted.beforeTimeout).1 = .ok r
      ∧ r.body = []
      ∧ (readRequest defaultLineLimit none interrupted).1
          = .ok { r with body := utf8 "hello" } := by
  have hline : ∀ rest, readRequestLine defaultLineLimit
      (Script.mk (.data (utf8 "POST / HTTP/1.1\r\n") :: rest))
        = (.ok ⟨.post, "/", "HTTP/1.1"⟩, ⟨rest⟩) := fun rest => rfl
  have hread : ∀ rest, Line.read defaultLineLimit
      (Script.mk (.data (utf8 "Content-Length: 5\r\n") :: rest))
        = (.text "Content-Length: 5", ⟨rest⟩) := fun rest => rfl
  have hheaders : ∀ {tail}, Ends tail → readHeaders defaultLineLimit
      (Script.mk (.data (utf8 "Content-Length: 5\r\n") :: tail))
        = (.ok (.ofList [("Content-Length", "5")]), ⟨tail.tail⟩) := by
    intro tail ht
    refine readHeaders_of_ok ?_
    rw [readPairs_of_text (hread tail), if_neg (by decide), readPairs_of_ended (read_of_ends ht)]
    rfl
  have hlength : declaredLength ((Headers.ofList [("Content-Length", "5")]).get? "Content-Length")
      = .ok 5 := by decide
  have hbody : readBody 5 (Script.mk [.data (utf8 "hello")]) = (.ok (utf8 "hello"), ⟨[]⟩) := by
    have hpart : Source.read 5 (Script.mk [.data (utf8 "hello")])
        = (.data (utf8 "hello"), ⟨[]⟩) := rfl
    rw [readBody, readParts_of_data (by decide) hpart, if_neg (by decide)]
    exact readParts_zero _ _
  have hnone : readBody 5 (Script.mk []) = (.ok [], ⟨[]⟩) := by
    have hend : Source.read 5 (Script.mk []) = (.data [], ⟨[]⟩) := rfl
    rw [readBody, readParts_of_data (by decide) hend, if_pos rfl]
    rfl
  have hcut : interrupted.beforeTimeout
      = ⟨[.data (utf8 "POST / HTTP/1.1\r\n"), .data (utf8 "Content-Length: 5\r\n")]⟩ := rfl
  rw [hcut, readRequest_of_body (hline _) (hheaders ends_nil) hlength hnone, interrupted,
    readRequest_of_body (hline _) (hheaders (ends_timedOut _)) hlength hbody]
  exact ⟨_, rfl, rfl, rfl⟩

end Wire

end HttpKit
