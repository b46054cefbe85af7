import HttpKit.Proofs.Headers.OrderedMap
import HttpKit.Proofs.Middleware.Trace
import HttpKit.Proofs.Server.Exchange

/-!
# The access log accounts for every request

A log tells of every request what it ended with, and hands that on. What it writes is said by
`AccessLog.Entered`, for entries that the log keeps (`LogEntry.kept`). It can be written unless it
is to be JSON and the peer's host is none (`AccessLog.CanWrite`).

## How the argument goes

* the clock and the log are read and written in one step each (`Run.nextId_run`, `Run.tick_run`,
  `Run.log_run`)
* a log around a handler is taken apart into what comes before and after it: it is called with the
  request that came in (`calls_planned`), and then the entries are written (`conclude_run`)
* `around_run` is the step; the header that a log sets is not told of (`Entered.of_handOn`), so that
  all logs of a stack tell of what the handler ended with (`logged_run`, by induction on the stack)
* a header that is set again is the one that was set last (`handOnAll_response`)

`accounts` puts this together with the response that is sent for an outcome.
-/

namespace HttpKit

variable {ω : Type}

/-! ## The clock -/

namespace Clock

/-- The identifier that is taken next. -/
def id (c : Clock) : String :=
  match c.ids with
  | [] => "00000000"
  | id :: _ => String.ofList (id.toList.take 8)

/-- The next reading in seconds. -/
def reading (c : Clock) : Float := c.ticks.headD 0.0

/-- The clock once an identifier was taken. -/
def afterId (c : Clock) : Clock := { c with ids := c.ids.tail }

/-- The clock once it was read. -/
def afterReading (c : Clock) : Clock := { c with ticks := c.ticks.tail }

end Clock

/-- What the log keeps of an entry: entries of any severity above zero. -/
def LogEntry.kept (entry : LogEntry) : List LogEntry := if 0 < entry.level then [entry] else []

namespace Journal

/-- The journal in which a log calls the rest of the way: an identifier was taken and the clock
read. -/
def begun (j : Journal ω) : Journal ω := { j with clock := j.clock.afterId.afterReading }

/-- The journal once the clock was read and entries were written. -/
def noted (j : Journal ω) (entries : List LogEntry) : Journal ω :=
  { j with clock := j.clock.afterReading, log := j.log ++ entries }

end Journal

namespace Run

variable (j : Journal ω)

theorem nextId_run :
    (nextId : Run ω String).run.run j = (.ok j.clock.id, { j with clock := j.clock.afterId }) := by
  obtain ⟨⟨ids, ticks, stamp⟩, log, state⟩ := j
  cases ids <;> rfl

theorem tick_run :
    (tick : Run ω Float).run.run j
      = (.ok j.clock.reading, { j with clock := j.clock.afterReading }) := by
  obtain ⟨⟨ids, ticks, stamp⟩, log, state⟩ := j
  cases ticks <;> rfl

theorem log_run (level : Level) (text : String) :
    (log level text : Run ω Unit).run.run j
      = (.ok (), { j with log := j.log ++ LogEntry.kept ⟨level, text⟩ }) := by
  have hmodify : (log level text : Run ω Unit).run.run j
      = (.ok (), if 0 < level then { j with log := j.log ++ [⟨level, text⟩] } else j) := rfl
  rw [hmodify, LogEntry.kept]
  split <;> simp

end Run

/-! ## What there is to tell -/

/-- The status and the length of the body that a reply is told by. No reply counts as an empty
204. -/
def Reply.told : Reply → Int × Int
  | response r => (r.status, r.body.length)
  | _ => (204, 0)

/-- Whether a record tells of a request and the reply to it. -/
structure AccessRecord.Tells (record : AccessRecord) (request : Request) (reply : Reply)
    (id : String) : Prop where
  requestId : record.requestId = id
  method : record.method = request.method.name
  target : record.target = request.target
  client : record.client = (request.client.bind List.head?).getD (.text AccessLog.unknown)
  reply : (record.status, record.contentLength) = reply.told

namespace AccessLog

/-- What a log writes about a request and what the rest of the way ended with. -/
inductive Entered (a : AccessLog) (request : Request) (id : String) :
    Except Fault Reply → List LogEntry → Prop where
  /-- A fault is an error. -/
  | failed (fault : Fault) (duration : Float) :
      Entered a request id (.error fault) [⟨Level.error, failureLine request fault id duration⟩]
  /-- A reply to a request for one of the paths that are left out. -/
  | skipped (reply : Reply) (h : request.path ∈ a.skipped) : Entered a request id (.ok reply) []
  /-- Any other reply is told of at the level of the log. -/
  | told {reply : Reply} {record : AccessRecord} {line : String} (h : request.path ∉ a.skipped)
      (hrecord : record.Tells request reply id) (hline : record.toLine a.format = .ok line) :
      Entered a request id (.ok reply) (LogEntry.kept ⟨a.level, line⟩)

/-! ## One log -/

/-- What a log hands on: a response with the identifier of the request, if that is to be shown. -/
def handOn (a : AccessLog) (id : String) : Except Fault Reply → Except Fault Reply
  | .ok (.response r) => .ok (.response (if a.showsId then r.withHeader idHeader id else r))
  | outcome => outcome

/-- Whether a line about a request can be written, if there is to be one. In JSON it can if the
peer's host can. -/
def CanWrite (a : AccessLog) (request : Request) : Prop :=
  request.path ∉ a.skipped → a.format = .json →
    ∀ host ∈ request.client.bind List.head?, ∃ s, host.render .spaced = .ok s

/-- Whether a log can tell of what the rest of the way ended with: a fault, or nothing or a response
and then of the request. -/
inductive CanTell (a : AccessLog) (request : Request) : Except Fault Reply → Prop where
  | fault (f : Fault) : CanTell a request (.error f)
  | nothing (h : a.CanWrite request) : CanTell a request (.ok .nothing)
  | response (r : Response) (h : a.CanWrite request) : CanTell a request (.ok (.response r))

theorem canTell {a : AccessLog} {request : Request} {outcome : Except Fault Reply}
    (hreply : ∀ value, outcome ≠ .ok (.datum value))
    (hwrite : ∀ reply, outcome = .ok reply → a.CanWrite request) : a.CanTell request outcome := by
  match outcome with
  | .error f => exact .fault f
  | .ok .nothing => exact .nothing (hwrite _ rfl)
  | .ok (.response r) => exact .response r (hwrite _ rfl)
  | .ok (.datum value) => exact absurd rfl (hreply value)

/-- There is a record of every reply but a datum. -/
theorem exists_record (request : Request) {reply : Reply} (hreply : ∀ value, reply ≠ .datum value)
    (id : String) (duration : Float) (stamp : String) :
    ∃ r, record request reply id duration stamp = .ok r ∧ r.Tells request reply id := by
  cases reply with
  | response r => exact ⟨_, rfl, rfl, rfl, rfl, rfl, rfl⟩
  | nothing => exact ⟨_, rfl, rfl, rfl, rfl, rfl, rfl⟩
  | datum value => exact absurd rfl (hreply value)

/-- Of what a record tells only the peer's host may be no JSON. -/
theorem exists_line {a : AccessLog} {request : Request} (h : a.CanWrite request)
    (hskip : request.path ∉ a.skipped) {record : AccessRecord} {reply : Reply} {id : String}
    (htells : record.Tells request reply id) : ∃ line, record.toLine a.format = .ok line := by
  cases hformat : a.format with
  | text => exact ⟨_, rfl⟩
  | json =>
    obtain ⟨s, hs⟩ : ∃ s, record.client.render .spaced = .ok s := by
      rw [htells.client]
      cases hhost : request.client.bind List.head? with
      | none => exact ⟨_, rfl⟩
      | some host => exact h hskip hformat host hhost
    rw [AccessRecord.toLine, AccessRecord.toJsonLine, AccessRecord.toJson]
    simp only [Json.render, Json.renderFields, hs]
    exact ⟨_, rfl⟩

theorem write_run {a : AccessLog} {request : Request} (h : a.CanWrite request) (reply : Reply)
    (hreply : ∀ value, reply ≠ .datum value) (id : String) (duration : Float) (j : Journal ω) :
    ∃ entries, a.Entered request id (.ok reply) entries
      ∧ (a.write request reply id duration : Run ω Unit).run.run j
        = (.ok (), { j with log := j.log ++ entries }) := by
  rw [write]
  by_cases hskip : request.path ∈ a.skipped
  · refine ⟨[], .skipped reply hskip, ?_⟩
    rw [if_pos (List.contains_iff_mem.mpr hskip), List.append_nil]
    rfl
  · obtain ⟨record, hrecord, htells⟩ := exists_record request hreply id duration j.clock.stamp
    obtain ⟨line, hline⟩ := exists_line h hskip htells
    refine ⟨_, .told hskip htells hline, ?_⟩
    have hget : (get : Run ω (Journal ω)).run.run j = (.ok j, j) := rfl
    have hmade : (Run.ofExcept (.ok record) : Run ω AccessRecord).run.run j = (.ok record, j) := rfl
    rw [if_neg (mt List.contains_iff_mem.mp hskip), Run.bind_of_ok hget]
    dsimp only
    rw [hrecord, Run.bind_of_ok hmade, hline, Run.log_run]

/-- **After the rest of the way a log writes its entries and hands on what it ended with.** -/
theorem conclude_run {a : AccessLog} {request : Request} {outcome : Except Fault Reply}
    (h : a.CanTell request outcome) (id : String) (started : Float) (j : Journal ω) :
    ∃ entries, a.Entered request id outcome entries
      ∧ (a.conclude request id started outcome : Run ω Reply).run.run j
        = (a.handOn id outcome, j.noted entries) := by
  rw [conclude, Run.bind_of_ok (Run.tick_run j)]
  cases h with
  | fault f =>
    refine ⟨_, .failed f ((j.clock.reading - started) * 1000), ?_⟩
    dsimp only
    rw [Run.bind_of_ok (Run.log_run _ _ _)]
    rfl
  | nothing h =>
    obtain ⟨entries, hentered, hwrite⟩ := write_run h .nothing (by simp) id
      ((j.clock.reading - started) * 1000) { j with clock := j.clock.afterReading }
    refine ⟨entries, hentered, ?_⟩
    dsimp only
    rw [Run.bind_of_ok hwrite]
    rfl
  | response r h =>
    obtain ⟨entries, hentered, hwrite⟩ := write_run h (.response r) (by simp) id
      ((j.clock.reading - started) * 1000) { j with clock := j.clock.afterReading }
    refine ⟨entries, hentered, ?_⟩
    dsimp only
    rw [Run.bind_of_ok hwrite, handOn]
    split <;> rfl

/-- **A log calls the rest of the way once**, with the request that it was given. -/
theorem calls_planned (a : AccessLog) (next : Handler ω) (request : Request) (j : Journal ω) :
    a.planned.calls next ⟨request, j⟩ = [⟨request, j.begun⟩] := by
  have hbegin : (do return (← Run.nextId, ← Run.tick) : Run ω (String × Float)).run.run j
      = (.ok (j.clock.id, j.clock.afterId.reading), j.begun) := by
    rw [Run.bind_of_ok (Run.nextId_run j), Run.bind_of_ok (Run.tick_run _)]
    rfl
  rw [Planned.calls, planned, Plan.calls_act_of_ok hbegin, Plan.calls]
  simp only [Plan.calls_act_done]
  rfl

theorem around_run {a : AccessLog} {request : Request} {next : Handler ω} {j after : Journal ω}
    {outcome : Except Fault Reply} (hrun : (next request).run.run j.begun = (outcome, after))
    (h : a.CanTell request outcome) :
    ∃ entries, a.Entered request j.clock.id outcome entries
      ∧ (a.middleware.around next request).run.run j
        = (a.handOn j.clock.id outcome, after.noted entries) := by
  obtain ⟨entries, hentered, hconclude⟩ :=
    conclude_run h j.clock.id j.clock.afterId.reading after
  refine ⟨entries, hentered, ?_⟩
  rw [Middleware.around, middleware, Run.bind_of_ok (Run.nextId_run j),
    Run.bind_of_ok (Run.tick_run _)]
  exact (Run.attempt_bind hrun _).trans hconclude

/-! ## Logs around logs -/

/-- A handler inside logs, the first of them outermost. -/
def logged (as : List AccessLog) (h : Handler ω) : Handler ω :=
  (Chain.empty.extend (as.map AccessLog.middleware)).wrap h

/-- Logs with the identifiers under which they tell of a request that arrives in a journal. -/
def identified : List AccessLog → Journal ω → List (AccessLog × String)
  | [], _ => []
  | a :: as, j => (a, j.clock.id) :: identified as j.begun

/-- What logs hand on, from the last to the first. -/
def handOnAll (logs : List (AccessLog × String)) (outcome : Except Fault Reply) :
    Except Fault Reply :=
  logs.foldr (fun log => log.1.handOn log.2) outcome

theorem logged_cons (a : AccessLog) (as : List AccessLog) (h : Handler ω) :
    logged (a :: as) h = a.middleware.around (logged as h) := by
  rw [logged, logged, Chain.wrap_extend_empty, Chain.wrap_extend_empty]
  rfl

/-- What a log hands on is told of as what it was given. -/
theorem Entered.of_handOn {a b : AccessLog} {request : Request} {id other : String}
    {outcome : Except Fault Reply} {entries : List LogEntry}
    (h : a.Entered request id (b.handOn other outcome) entries) :
    a.Entered request id outcome entries := by
  match outcome with
  | .error _ | .ok .nothing | .ok (.datum _) => exact h
  | .ok (.response r) =>
    have htold : (Reply.response (if b.showsId then r.withHeader idHeader other else r)).told
        = (Reply.response r).told := by
      cases b.showsId <;> rfl
    cases h with
    | skipped _ hskip => exact .skipped _ hskip
    | told hskip hrecord hline =>
      exact .told hskip { hrecord with reply := htold ▸ hrecord.reply } hline

theorem CanTell.handOn {a : AccessLog} {request : Request} {outcome : Except Fault Reply}
    (h : a.CanTell request outcome) (b : AccessLog) (id : String) :
    a.CanTell request (b.handOn id outcome) := by
  cases h with
  | fault f => exact .fault f
  | nothing h => exact .nothing h
  | response r h => exact .response _ h

theorem CanTell.handOnAll {a : AccessLog} {request : Request} {outcome : Except Fault Reply}
    (h : a.CanTell request outcome) (logs : List (AccessLog × String)) :
    a.CanTell request (handOnAll logs outcome) := by
  induction logs with
  | nil => exact h
  | cons log logs ih => exact ih.handOn log.1 log.2

theorem Entered.of_handOnAll {a : AccessLog} {request : Request} {id : String}
    {outcome : Except Fault Reply} {logs : List (AccessLog × String)} {entries : List LogEntry}
    (h : a.Entered request id (handOnAll logs outcome) entries) :
    a.Entered request id outcome entries := by
  induction logs with
  | nil => exact h
  | cons log logs ih => exact ih h.of_handOn

/-- **Every log tells of what the handler ends with**, the innermost first, and the handler runs in
a journal in which only the clock has moved. -/
theorem logged_run {as : List AccessLog} {request : Request} {h : Handler ω} {j after : Journal ω}
    {outcome : Except Fault Reply}
    (hrun : (h request).run.run (Journal.begun^[as.length] j) = (outcome, after))
    (htell : ∀ a ∈ as, a.CanTell request outcome) :
    ∃ told : List (List LogEntry),
      List.Forall₂ (fun log entries => Entered log.1 request log.2 outcome entries)
        (identified as j).reverse told
      ∧ (logged as h request).run.run j
        = (handOnAll (identified as j) outcome, told.foldl Journal.noted after) := by
  induction as generalizing j with
  | nil => exact ⟨[], .nil, hrun⟩
  | cons a as ih =>
    obtain ⟨told, htold, hinner⟩ := ih (j := j.begun) hrun fun b hb =>
      htell b (List.mem_cons_of_mem _ hb)
    obtain ⟨entries, hentered, houter⟩ :=
      around_run hinner ((htell a List.mem_cons_self).handOnAll _)
    refine ⟨told ++ [entries], ?_, ?_⟩
    · rw [identified, List.reverse_cons]
      exact List.rel_append htold (.cons hentered.of_handOnAll .nil)
    · rw [logged_cons, houter, List.foldl_concat]
      rfl

/-! ## What the client is sent -/

/-- The identifier that logs show: that of the first log that shows any. -/
def shownId? (logs : List (AccessLog × String)) : Option String :=
  (logs.find? fun log => log.1.showsId).map Prod.snd

/-- Whether a response is another one with the header that names the request: in place of the header
of that name in any casing, else at the end. -/
structure Names (id : String) (named r : Response) : Prop where
  status : named.status = r.status
  reason : named.reason = r.reason
  body : named.body = r.body
  headers : named.headers.toList = Entries.write r.headers.toList (idHeader, id)

/-- Whether an outcome is another one in which a response names the request, if there is an
identifier to be shown. -/
inductive HandedOn : Option String → Except Fault Reply → Except Fault Reply → Prop where
  | fault (id? : Option String) (f : Fault) : HandedOn id? (.error f) (.error f)
  | nothing (id? : Option String) : HandedOn id? (.ok .nothing) (.ok .nothing)
  | unnamed (r : Response) : HandedOn none (.ok (.response r)) (.ok (.response r))
  | named {id : String} {named r : Response} (h : Names id named r) :
      HandedOn (some id) (.ok (.response r)) (.ok (.response named))

/-- Whether the response that is sent from inside logs is the one that is sent without them. It may
name the request if the handler responds. -/
def Received (id? : Option String) (outcome : Except Fault Reply) (sent plain : Response) : Prop :=
  match id?, outcome with
  | some id, .ok (.response _) => Names id sent plain
  | _, _ => sent = plain

theorem names_withHeader (id : String) (r : Response) : Names id (r.withHeader idHeader id) r where
  status := rfl
  reason := rfl
  body := rfl
  headers := r.headers.toList_insert idHeader id

/-- Of the identifiers that logs write into one header the last to be written is kept. -/
theorem handOnAll_response (logs : List (AccessLog × String)) (r : Response) :
    handOnAll logs (.ok (.response r))
      = .ok (.response ((shownId? logs).elim r fun id => r.withHeader idHeader id)) := by
  induction logs with
  | nil => rfl
  | cons log logs ih =>
    obtain ⟨a, id⟩ := log
    have hnamed : ((shownId? logs).elim r fun other => r.withHeader idHeader other).withHeader
        idHeader id = r.withHeader idHeader id := by
      cases shownId? logs with
      | none => rfl
      | some other => exact congrArg (Response.mk _ _ · _) (r.headers.insert_insert _ _ _)
    have hshown : shownId? ((a, id) :: logs) = if a.showsId then some id else shownId? logs := by
      rw [shownId?, List.find?_cons]
      cases a.showsId <;> rfl
    change a.handOn id (handOnAll logs _) = _
    rw [ih, handOn, hshown]
    cases a.showsId with
    | false => rfl
    | true => exact congrArg (Except.ok ∘ Reply.response) hnamed

/-- **What logs hand on is what they were given**, but for the header that names the request. -/
theorem handedOn_handOnAll (logs : List (AccessLog × String)) {outcome : Except Fault Reply}
    (hreply : ∀ value, outcome ≠ .ok (.datum value)) :
    HandedOn (shownId? logs) outcome (handOnAll logs outcome) := by
  have hsame : (∀ a id, handOn a id outcome = outcome) → handOnAll logs outcome = outcome := by
    intro hone
    induction logs with
    | nil => rfl
    | cons log logs ih => rw [handOnAll, List.foldr_cons, ← handOnAll, ih, hone]
  match outcome with
  | .error f =>
    rw [hsame fun _ _ => rfl]
    exact .fault _ f
  | .ok .nothing =>
    rw [hsame fun _ _ => rfl]
    exact .nothing _
  | .ok (.datum value) => exact absurd rfl (hreply value)
  | .ok (.response r) =>
    rw [handOnAll_response]
    cases shownId? logs with
    | none => exact .unnamed r
    | some id => exact .named (names_withHeader id r)

theorem HandedOn.answers {id? : Option String} {outcome sent : Except Fault Reply}
    {plain : Response} (h : HandedOn id? outcome sent) (hplain : Answers outcome plain) :
    ∃ r, Answers sent r ∧ Received id? outcome r plain := by
  cases h with
  | fault id? f =>
    cases hplain
    exact ⟨_, .fault f, by cases id? <;> rfl⟩
  | nothing id? =>
    cases hplain
    exact ⟨_, .nothing, by cases id? <;> rfl⟩
  | unnamed =>
    cases hplain
    exact ⟨_, .given _, rfl⟩
  | named hnamed =>
    cases hplain
    exact ⟨_, .given _, hnamed⟩

/-! ## The account -/

theorem foldl_noted (told : List (List LogEntry)) (j : Journal ω) :
    (told.foldl Journal.noted j).log = j.log ++ told.flatten
      ∧ (told.foldl Journal.noted j).state = j.state := by
  induction told generalizing j with
  | nil => exact ⟨(List.append_nil _).symm, rfl⟩
  | cons entries told ih =>
    obtain ⟨hlog, hstate⟩ := ih (j.noted entries)
    exact ⟨hlog.trans (List.append_assoc _ _ _), hstate⟩

theorem iterate_begun (n : Nat) (j : Journal ω) :
    (Journal.begun^[n] j).log = j.log ∧ (Journal.begun^[n] j).state = j.state := by
  induction n generalizing j with
  | zero => exact ⟨rfl, rfl⟩
  | succ n ih => exact ih j.begun

theorem length_identified (as : List AccessLog) (j : Journal ω) :
    (identified as j).length = as.length := by
  induction as generalizing j with
  | nil => rfl
  | cons a as ih => exact congrArg Nat.succ (ih j.begun)

/-- Whether an entry is what a log writes about a request that ends in a fault. -/
def Reports (request : Request) (fault : Fault) (log : AccessLog × String) (entry : LogEntry) :
    Prop :=
  ∃ duration, entry = ⟨Level.error, failureLine request fault log.2 duration⟩

/-- About a fault every log writes one entry. -/
theorem reports_of_entered {request : Request} {fault : Fault} {logs : List (AccessLog × String)}
    {told : List (List LogEntry)}
    (h : List.Forall₂ (fun log entries => Entered log.1 request log.2 (.error fault) entries)
      logs told) :
    List.Forall₂ (Reports request fault) logs told.flatten := by
  induction h with
  | nil => exact .nil
  | cons hentered _ ih =>
    cases hentered with
    | failed _ duration => exact .cons ⟨duration, rfl⟩ ih

/-- **The access log accounts for every request and changes nothing else.** A log calls the rest of
the way once, with the request that it was given. Whatever handler is inside logs, it runs in the
journal in which the request arrives, except that the clock has moved. Nothing and faults are handed
on as they are, and a response is handed on as it is but for the header that names the request,
which is the outermost log's of those that show it. To what the handler wrote every log adds, from
the innermost to the outermost, what it has to tell of the outcome. So for a fault there are as many
errors as there are logs, and the client is sent what it is sent without the logs but for the header
in a response of the handler. -/
theorem accounts {as : List AccessLog} {h : Handler ω} {request : Request} {j after : Journal ω}
    {outcome : Except Fault Reply}
    (hrun : (h request).run.run (Journal.begun^[as.length] j) = (outcome, after))
    (hreply : ∀ value, outcome ≠ .ok (.datum value))
    (hwrite : ∀ a ∈ as, ∀ reply, outcome = .ok reply → a.CanWrite request) :
    (∀ (a : AccessLog) (next : Handler ω) (j : Journal ω),
        logged [a] next = a.planned.middleware.around next
        ∧ a.planned.calls next ⟨request, j⟩ = [⟨request, j.begun⟩])
      ∧ (Journal.begun^[as.length] j).log = j.log
      ∧ (Journal.begun^[as.length] j).state = j.state
      ∧ ∃ sent ended told, (logged as h request).run.run j = (sent, ended)
        ∧ HandedOn (shownId? (identified as j)) outcome sent
        ∧ ended.state = after.state
        ∧ ended.log = after.log ++ told.flatten
        ∧ List.Forall₂ (fun log entries => Entered log.1 request log.2 outcome entries)
          (identified as j).reverse told
        ∧ (∀ fault, outcome = .error fault → told.flatten.length = as.length
          ∧ List.Forall₂ (Reports request fault) (identified as j).reverse told.flatten)
        ∧ ∀ plain, Answers outcome plain →
          (h.invoke request).run (Journal.begun^[as.length] j) = (.response plain, after)
          ∧ ∃ r, ((logged as h).invoke request).run j = (.response r, ended)
            ∧ Received (shownId? (identified as j)) outcome r plain := by
  obtain ⟨told, htold, hlogged⟩ :=
    logged_run hrun fun a ha => canTell hreply (hwrite a ha)
  obtain ⟨hlog, hstate⟩ := foldl_noted told after
  obtain ⟨hbegunLog, hbegunState⟩ := iterate_begun as.length j
  have hhanded := handedOn_handOnAll (identified as j) hreply
  refine ⟨fun a next j => ⟨?_, calls_planned a next request j⟩, hbegunLog, hbegunState, _, _, told,
    hlogged, hhanded, hstate, hlog, htold, ?_, ?_⟩
  · rw [middleware_planned, logged_cons]
    rfl
  · rintro fault rfl
    have hreports := reports_of_entered htold
    refine ⟨?_, hreports⟩
    rw [← hreports.length_eq, List.length_reverse, length_identified]
  · intro plain hplain
    obtain ⟨r, hr, hreceived⟩ := hhanded.answers hplain
    exact ⟨Handler.invoke_of_answers hrun hplain, r, Handler.invoke_of_answers hlogged hr,
      hreceived⟩

/-- A log in plain text around one in JSON that leaves a path out. -/
def mixed : List AccessLog := [standard .text, ⟨.json, false, Level.warning, ["/a"]⟩]

/-- Raises. -/
def failing : Handler Unit := fun _ => throw (.raised "KeyError" "missing")

/-- The response names the request as the outer log does, and a fault is told of twice. -/
theorem accounts_mixed :
    (∃ r ended, ((logged mixed answering).invoke asked.request).run asked.journal
        = (.response r, ended)
      ∧ Names "00000000" r (.text 200 "ok"))
    ∧ ∃ ended, ((logged mixed failing).invoke asked.request).run asked.journal
        = (.response (.text 500 "Internal Server Error"), ended)
      ∧ ended.log.length = 2 := by
  have hhost : ∀ a ∈ mixed, a.CanWrite asked.request := fun _ _ _ _ _ hhost => nomatch hhost
  have hanswers : (answering asked.request).run.run (Journal.begun^[mixed.length] asked.journal)
      = (.ok (.response (.text 200 "ok")), asked.journal) := rfl
  have hfails : (failing asked.request).run.run (Journal.begun^[mixed.length] asked.journal)
      = (.error (.raised "KeyError" "missing"), asked.journal) := rfl
  constructor
  · obtain ⟨-, -, -, sent, ended, told, -, -, -, -, -, -, hsent⟩ :=
      accounts hanswers (by simp) fun a ha _ _ => hhost a ha
    obtain ⟨-, r, hr, hreceived⟩ := hsent _ (.given _)
    exact ⟨r, ended, hr, hreceived⟩
  · obtain ⟨-, -, -, sent, ended, told, -, -, -, hlog, -, hfault, hsent⟩ :=
      accounts hfails (by simp) fun a ha _ _ => hhost a ha
    obtain ⟨-, r, hr, hreceived⟩ := hsent _ (.fault _)
    exact ⟨ended, hreceived ▸ hr, hlog ▸ (hfault _ rfl).1⟩

/-- A reply is not told of at a level that the log does not keep, and in JSON the peer's host may
stand in the way of it. -/
theorem reply_untold :
    (∃ ended, (logged [{ standard .text with level := -1 }] answering asked.request).run.run
        asked.journal = (.ok (.response ((Response.text 200 "ok").withHeader idHeader "00000000")),
          ended)
      ∧ ended.log = [])
    ∧ ∃ text ended, (logged [standard .json] answering
        { asked.request with client := some [.bytes [1]] }).run.run asked.journal
          = (.error (.raised "TypeError" text), ended)
      ∧ ended.log = [] :=
  ⟨⟨_, rfl, rfl⟩, _, _, rfl, rfl⟩

end AccessLog

end HttpKit
