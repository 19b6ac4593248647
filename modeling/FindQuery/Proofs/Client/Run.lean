import Mathlib
import FindQuery.Client.Transport
import FindQuery.Proofs.Outcome

namespace FindQuery

namespace CompiledQuery

def sent? {β : Type} (form : Json → β) (query : CompiledQuery) : Option (String × β) :=
  query.body.toOption.map fun body => (query.database, form body)

end CompiledQuery

namespace Client

variable {σ : Type}

inductive Call : Type 1
  | find (spec : QuerySpec)
  | findRecords (α : Type) [Record α] (spec : QuerySpec)

namespace Call

def spec : Call → QuerySpec
  | find spec => spec
  | findRecords _ spec => spec

def Answer : Call → Type
  | find _ => Except Error FindResponse
  | findRecords α _ => Except Error (List α)

section

variable (accepts : String → Bool)

def perform (client : Client σ) (state : σ) : (call : Call) → call.Answer × σ
  | find spec => client.findWith accepts state spec
  | findRecords α spec => client.findRecordsWith accepts α state spec

def compiled? (call : Call) : Option CompiledQuery := (call.spec.assembleWith accepts).toOption

def sent? {β : Type} (form : Json → β) (call : Call) : Option (String × β) :=
  (call.compiled? accepts).bind (CompiledQuery.sent? form)

end

def refusal (error : Error) : (call : Call) → call.Answer
  | find _ => .error error
  | findRecords _ _ => .error error

def answer (reply : Except Error FindResponse) : (call : Call) → call.Answer
  | find _ => reply
  | findRecords α _ => reply.bind (FindResponse.records α)

/-- How a call is answered if its query gets a reply. The reply is passed on, or its documents are read in their order
up to the first that is no record. -/
inductive Answered : Except Error FindResponse → (call : Call) → call.Answer → Prop
  | find {spec : QuerySpec} (reply : Except Error FindResponse) : Answered reply (.find spec) reply
  | failed {α : Type} [Record α] {spec : QuerySpec} (error : Error) :
    Answered (.error error) (.findRecords α spec) (.error error)
  | records {α : Type} [Record α] {spec : QuerySpec} {response : FindResponse} {records : List α}
    (each : List.Forall₂ (fun doc record => Record.read doc = .ok record) response.docs records) :
    Answered (.ok response) (.findRecords α spec) (.ok records)
  | unreadable {α : Type} [Record α] {spec : QuerySpec} {response : FindResponse} {passed rest : List Json}
    {doc : Json} {reason : String} (docs : response.docs = passed ++ doc :: rest)
    (before : ∀ other ∈ passed, ∃ record : α, Record.read other = .ok record)
    (refused : (Record.read doc : Except String α) = .error reason) :
    Answered (.ok response) (.findRecords α spec) (.error (.serialization (.mismatch reason)))

theorem readRecord_eq_ok_iff {α : Type} [Record α] {doc : Json} {record : α} :
    readRecord α doc = .ok record ↔ Record.read doc = .ok record := by
  unfold readRecord
  cases (Record.read doc : Except String α) <;> simp [Except.mapError]

theorem readRecord_eq_error_iff {α : Type} [Record α] {doc : Json} {error : Error} :
    readRecord α doc = .error error ↔
      ∃ reason, (Record.read doc : Except String α) = .error reason ∧ error = .serialization (.mismatch reason) := by
  unfold readRecord
  cases (Record.read doc : Except String α) <;> simp [Except.mapError, eq_comm]

theorem answered_answer (reply : Except Error FindResponse) (call : Call) :
    call.Answered reply (call.answer reply) := by
  cases call with
  | find spec => exact .find reply
  | findRecords α spec =>
    cases reply with
    | error error => exact .failed error
    | ok response =>
      rw [answer, Except.bind]
      cases read : FindResponse.records α response with
      | ok records =>
        have each := mapM_eq_ok_iff.mp read
        simp only [readRecord_eq_ok_iff] at each
        exact .records each
      | error error =>
        obtain ⟨passed, doc, rest, docs, before, refused⟩ := mapM_eq_error_iff.mp read
        simp only [readRecord_eq_ok_iff] at before
        obtain ⟨reason, mismatch, rfl⟩ := readRecord_eq_error_iff.mp refused
        exact .unreadable docs before mismatch

end Call

structure Visit (σ : Type) : Type 1 where
  call : Call
  before : σ
  answer : call.Answer
  after : σ

section

variable (accepts : String → Bool)

def visit (client : Client σ) (state : σ) (call : Call) : Visit σ :=
  ⟨call, state, (call.perform accepts client state).1, (call.perform accepts client state).2⟩

def visits (client : Client σ) : σ → List Call → List (Visit σ)
  | _, [] => []
  | state, call :: rest => client.visit accepts state call :: client.visits (client.visit accepts state call).after rest

def stateAfter (client : Client σ) (state : σ) (calls : List Call) : σ :=
  calls.foldl (fun state call => (client.visit accepts state call).after) state

end

end Client

def SentQuery.entry (query : SentQuery) : String × String := (query.database, query.body)

namespace Transport

variable {σ : Type} (transport : Transport σ)

def stateAfter (state : σ) (queries : List CompiledQuery) : σ :=
  queries.foldl (fun state query => (transport.send state query).2) state

theorem stateAfter_append (state : σ) (queries others : List CompiledQuery) :
    transport.stateAfter state (queries ++ others) =
      transport.stateAfter (transport.stateAfter state queries) others :=
  List.foldl_append

/-- The transport, beside a list of the queries that it is given. -/
def watched : Transport (σ × List CompiledQuery) where
  send state query :=
    let (reply, next) := transport.send state.1 query
    (reply, next, state.2 ++ [query])

/-- The database and the body of a query are kept in some form, but only if the body can be built. -/
def Keeps {β : Type} (form : Json → β) (kept : σ → List (String × β)) : Prop :=
  ∀ state query, kept (transport.send state query).2 = kept state ++ (query.sent? form).toList

theorem stateAfter_watched (state : σ) (seen queries : List CompiledQuery) :
    transport.watched.stateAfter (state, seen) queries = (transport.stateAfter state queries, seen ++ queries) := by
  induction queries generalizing state seen with
  | nil => simp [stateAfter]
  | cons query rest ih =>
    have others := ih (transport.send state query).2 (seen ++ [query])
    rw [List.append_assoc, List.singleton_append] at others
    exact others

theorem Keeps.stateAfter {transport : Transport σ} {β : Type} {form : Json → β} {kept : σ → List (String × β)}
    (keeps : transport.Keeps form kept) (state : σ) (queries : List CompiledQuery) :
    kept (transport.stateAfter state queries) = kept state ++ queries.filterMap (CompiledQuery.sent? form) := by
  induction queries generalizing state with
  | nil => exact (List.append_nil _).symm
  | cons query rest ih =>
    have others := ih (transport.send state query).2
    rw [keeps state query, List.append_assoc] at others
    refine others.trans (congrArg (kept state ++ ·) ?_)
    cases sent : query.sent? form <;> simp [sent]

theorem recording_keeps (docs : List Json) : (recording docs).Keeps Json.render (List.map SentQuery.entry) := by
  intro state query
  simp only [recording, CompiledQuery.bodyText, CompiledQuery.sent?]
  cases query.body <;> simp [Except.map, Except.toOption, SentQuery.entry]

end Transport

namespace Client

variable {σ : Type}

/-- A call whose query cannot be compiled does not reach the transport. Any other leaves what its query does. -/
inductive Visit.Proper (accepts : String → Bool) (transport : Transport σ) : Visit σ → Prop
  | refused {call : Call} {error : Error} (state : σ) (failed : call.spec.assembleWith accepts = .error error) :
    Proper accepts transport ⟨call, state, call.refusal error, state⟩
  | sent {call : Call} {query : CompiledQuery} {before : σ} {answer : call.Answer}
    (compiled : call.spec.assembleWith accepts = .ok query)
    (answered : call.Answered (transport.send before query).1 answer) :
    Proper accepts transport ⟨call, before, answer, (transport.send before query).2⟩

inductive Run (accepts : String → Bool) (transport : Transport σ) : σ → List (Visit σ) → σ → Prop
  | done (state : σ) : Run accepts transport state [] state
  | step {visit : Visit σ} {others : List (Visit σ)} {last : σ} (proper : visit.Proper accepts transport)
    (rest : Run accepts transport visit.after others last) : Run accepts transport visit.before (visit :: others) last

variable (accepts : String → Bool) (client : Client σ)

theorem visit_of_error {state : σ} {call : Call} {error : Error}
    (failed : call.spec.assembleWith accepts = .error error) :
    client.visit accepts state call = ⟨call, state, call.refusal error, state⟩ := by
  cases call <;> simp only [Call.spec] at failed <;>
    simp [visit, Call.perform, findRecordsWith, findWith, failed, Call.refusal, Except.bind]

theorem visit_of_ok {state : σ} {call : Call} {query : CompiledQuery}
    (compiled : call.spec.assembleWith accepts = .ok query) :
    client.visit accepts state call = ⟨call, state, call.answer (client.transport.send state query).1,
      (client.transport.send state query).2⟩ := by
  cases call <;> simp only [Call.spec] at compiled <;>
    simp [visit, Call.perform, findRecordsWith, findWith, compiled, Call.answer]

theorem visit_proper (state : σ) (call : Call) : (client.visit accepts state call).Proper accepts client.transport := by
  cases assembled : call.spec.assembleWith accepts with
  | error error =>
    rw [client.visit_of_error accepts assembled]
    exact .refused state assembled
  | ok query =>
    rw [client.visit_of_ok accepts assembled]
    exact .sent assembled (call.answered_answer _)

theorem run_visits (state : σ) (calls : List Call) :
    Run accepts client.transport state (client.visits accepts state calls) (client.stateAfter accepts state calls) := by
  induction calls generalizing state with
  | nil => exact .done state
  | cons call rest ih =>
    exact .step (client.visit_proper accepts state call) (ih (client.visit accepts state call).after)

theorem map_call_visits (state : σ) (calls : List Call) :
    (client.visits accepts state calls).map Visit.call = calls := by
  induction calls generalizing state with
  | nil => rfl
  | cons call rest ih => exact congrArg (call :: ·) (ih (client.visit accepts state call).after)

theorem after_visit (state : σ) (call : Call) :
    (client.visit accepts state call).after = client.transport.stateAfter state (call.compiled? accepts).toList := by
  cases assembled : call.spec.assembleWith accepts with
  | error error =>
    rw [client.visit_of_error accepts assembled, Call.compiled?, assembled]
    rfl
  | ok query =>
    rw [client.visit_of_ok accepts assembled, Call.compiled?, assembled]
    rfl

theorem stateAfter_eq (state : σ) (calls : List Call) :
    client.stateAfter accepts state calls =
      client.transport.stateAfter state (calls.filterMap (Call.compiled? accepts)) := by
  induction calls generalizing state with
  | nil => rfl
  | cons call rest ih =>
    calc client.stateAfter accepts state (call :: rest)
        = client.stateAfter accepts (client.visit accepts state call).after rest := rfl
      _ = client.transport.stateAfter (client.transport.stateAfter state (call.compiled? accepts).toList)
            (rest.filterMap (Call.compiled? accepts)) := by rw [ih, client.after_visit accepts]
      _ = client.transport.stateAfter state
          ((call.compiled? accepts).toList ++ rest.filterMap (Call.compiled? accepts)) := by
        rw [client.transport.stateAfter_append]
      _ = client.transport.stateAfter state ((call :: rest).filterMap (Call.compiled? accepts)) := by
        cases compiled : call.compiled? accepts <;> simp [compiled]

def watched : Client (σ × List CompiledQuery) := ⟨client.transport.watched, client.config⟩

def Visit.unwatched (visit : Visit (σ × List CompiledQuery)) : Visit σ :=
  ⟨visit.call, visit.before.1, visit.answer, visit.after.1⟩

theorem unwatched_visit (state : σ × List CompiledQuery) (call : Call) :
    (client.watched.visit accepts state call).unwatched = client.visit accepts state.1 call := by
  cases assembled : call.spec.assembleWith accepts with
  | error error =>
    rw [client.watched.visit_of_error accepts assembled, client.visit_of_error accepts assembled]
    rfl
  | ok query =>
    rw [client.watched.visit_of_ok accepts assembled, client.visit_of_ok accepts assembled]
    rfl

theorem unwatched_visits (state : σ × List CompiledQuery) (calls : List Call) :
    (client.watched.visits accepts state calls).map Visit.unwatched = client.visits accepts state.1 calls := by
  induction calls generalizing state with
  | nil => rfl
  | cons call rest ih =>
    -- The rest starts in the same state, beside what has been seen.
    have first := client.unwatched_visit accepts state call
    have next : (client.watched.visit accepts state call).after.1 = (client.visit accepts state.1 call).after :=
      congrArg Visit.after first
    simp only [visits, List.map_cons, first, ih, next]

/-- Calls are made in their order, and each is answered by the transport if its query can be compiled. These queries
are all that the transport is given, in the order of the calls. A transport that keeps the bodies it can build
has one more for every call whose query and whose body can be built. -/
theorem run_of_calls (start : σ) (calls : List Call) :
    (client.visits accepts start calls).map Visit.call = calls ∧
      Run accepts client.transport start (client.visits accepts start calls) (client.stateAfter accepts start calls) ∧
      (client.watched.visits accepts (start, []) calls).map Visit.unwatched = client.visits accepts start calls ∧
      client.watched.stateAfter accepts (start, []) calls =
        (client.stateAfter accepts start calls, calls.filterMap (Call.compiled? accepts)) ∧
      ∀ (β : Type) (form : Json → β) (kept : σ → List (String × β)), client.transport.Keeps form kept →
        kept (client.stateAfter accepts start calls) = kept start ++ calls.filterMap (Call.sent? accepts form) := by
  refine ⟨client.map_call_visits accepts start calls, client.run_visits accepts start calls,
    client.unwatched_visits accepts (start, []) calls, ?_, ?_⟩
  · rw [client.watched.stateAfter_eq accepts, client.stateAfter_eq]
    exact client.transport.stateAfter_watched start [] _
  · intro β form kept keeps
    rw [client.stateAfter_eq accepts, keeps.stateAfter, List.filterMap_filterMap]
    rfl

def filmClient : Client (List SentQuery) := ofTransport (.recording [.string "M", .null, .bool true])

def untitledQuery : QuerySpec := (QuerySpec.ofDatabase "films").run [.noFields]

def mixedCalls : List Call :=
  [.find ((QuerySpec.ofDatabase "films").run [.filter (.isIn "year" [.string "1931"])]),
    .findRecords Json ((QuerySpec.ofDatabase "films").run [.filter (.operation .isIn [])]),
    .find ((QuerySpec.ofDatabase "books").run [.rawSelector (.text "\x7b")]), .findRecords String untitledQuery]

theorem run_of_calls_mixed :
    filmClient.transport.Keeps Json.render (List.map SentQuery.entry) ∧
      Run Pattern.accepts filmClient.transport [] (filmClient.visits Pattern.accepts [] mixedCalls)
        (filmClient.stateAfter Pattern.accepts [] mixedCalls) ∧
      (filmClient.watched.stateAfter Pattern.accepts ([], []) mixedCalls).2.map CompiledQuery.database =
        ["films", "books", "films"] ∧
      (filmClient.findRecords String [] untitledQuery).1 =
        .error (.serialization (.mismatch "invalid type: null, expected a string")) ∧
      (filmClient.stateAfter Pattern.accepts [] mixedCalls).map SentQuery.entry =
        [("films", "\x7b\"selector\":\x7b\"year\":\x7b\"$in\":[\"1931\"]\x7d\x7d\x7d"),
          ("films", "\x7b\"selector\":\x7b\"_id\":\x7b\"$gt\":null\x7d\x7d,\"fields\":[]\x7d")] := by
  have keeps : filmClient.transport.Keeps Json.render (List.map SentQuery.entry) := Transport.recording_keeps _
  obtain ⟨_, run, _, given, record⟩ := filmClient.run_of_calls Pattern.accepts [] mixedCalls
  refine ⟨keeps, run, ?_, ?_, ?_⟩
  · rw [given]
    rfl
  · cbv
  · rw [record String Json.render _ keeps]
    cbv

end Client

end FindQuery
