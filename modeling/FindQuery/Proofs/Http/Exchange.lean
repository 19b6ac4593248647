import Mathlib
import FindQuery.Http.Exchange
import FindQuery.Proofs.Query.Failure

namespace FindQuery.Http

/-- What a query is posted as. Credentials go with it exactly if there is a user. -/
structure Posts (options : ConnectOptions) (database : String) (body : Json) (sent : Request) : Prop where
  method : sent.method = "POST"
  url : sent.url = findUrl options database
  contentType : sent.contentType = "application/json"
  body : sent.body = body.render
  anonymous : sent.credentials = none ↔ options.username = none
  basic : ∀ username, options.username = some username → sent.credentials = some ⟨username, options.password⟩

theorem posts_request (options : ConnectOptions) (database : String) (body : Json) :
    Posts options database body (request options database body.render) where
  method := rfl
  url := rfl
  contentType := rfl
  body := rfl
  anonymous := Option.map_eq_none_iff
  basic username named := by
    rw [request, named]
    rfl

inductive Reason (body : String) : String → Prop
  | error {report : ErrorReport} (read : ErrorReport.ofText? body = some report) (bare : report.reason = "") :
    Reason body report.error
  | explained {report : ErrorReport} (read : ErrorReport.ofText? body = some report) (given : report.reason ≠ "") :
    Reason body (report.error ++ ": " ++ report.reason)
  | verbatim (unread : ErrorReport.ofText? body = none) : Reason body body

theorem text_of_unmarked {status : Nat} {body : String} (unmarked : body.toList.head? ≠ some '\uFEFF') :
    Reply.text ⟨status, .ok body⟩ = body := by
  unfold Reply.text
  dsimp only
  split
  · next rest marked =>
    rw [marked] at unmarked
    exact absurd rfl unmarked
  · rfl

theorem summary_eq (report : ErrorReport) :
    report.summary = if report.reason = "" then report.error else report.error ++ ": " ++ report.reason := by
  simp only [ErrorReport.summary, String.isEmpty_iff]

theorem reason_iff {status : Nat} {body reason : String} (unmarked : body.toList.head? ≠ some '\uFEFF') :
    Reason body reason ↔ Reply.failureReason ⟨status, .ok body⟩ = reason := by
  rw [Reply.failureReason, text_of_unmarked unmarked]
  cases read : ErrorReport.ofText? body with
  | none =>
    constructor
    · rintro (⟨found, _⟩ | ⟨found, _⟩ | _)
      · cases read.symm.trans found
      · cases read.symm.trans found
      · rfl
    · rintro rfl
      exact .verbatim read
  | some report =>
    show _ ↔ report.summary = reason
    rw [summary_eq]
    constructor
    · rintro (⟨found, bare⟩ | ⟨found, given⟩ | unread)
      · cases read.symm.trans found
        rw [if_pos bare]
      · cases read.symm.trans found
        rw [if_neg given]
      · cases read.symm.trans unread
    · rintro rfl
      by_cases bare : report.reason = ""
      · rw [if_pos bare]
        exact .error read bare
      · rw [if_neg bare]
        exact .explained read bare

inductive Outcome (unread : String → Fault) (status : Nat) (body : String) : Except Error FindResponse → Prop
  | found {response : FindResponse} (success : 200 ≤ status ∧ status ≤ 299)
    (read : FindResponse.ofText? body = some response) : Outcome unread status body (.ok response)
  | unusable (success : 200 ≤ status ∧ status ≤ 299) (unreadable : FindResponse.ofText? body = none) :
    Outcome unread status body (.error (unread body).error)
  | failed {reason : String} (failure : ¬ (200 ≤ status ∧ status ≤ 299)) (why : Reason body reason) :
    Outcome unread status body (.error (.http status reason))

theorem isSuccess_iff {status : Nat} : isSuccess status = true ↔ 200 ≤ status ∧ status ≤ 299 := by
  simp [isSuccess]

theorem outcome_iff {unread : String → Fault} {status : Nat} {body : String} {result : Except Error FindResponse}
    (unmarked : body.toList.head? ≠ some '\uFEFF') :
    Outcome unread status body result ↔ Reply.result unread ⟨status, .ok body⟩ = result := by
  unfold Reply.result
  by_cases success : 200 ≤ status ∧ status ≤ 299
  · rw [if_pos (isSuccess_iff.mpr success)]
    dsimp only
    cases read : FindResponse.ofText? body with
    | none =>
      constructor
      · rintro (⟨_, found⟩ | _ | ⟨failure, _⟩)
        · cases read.symm.trans found
        · rfl
        · exact absurd success failure
      · rintro rfl
        exact .unusable success read
    | some response =>
      constructor
      · rintro (⟨_, found⟩ | ⟨_, unreadable⟩ | ⟨failure, _⟩)
        · cases read.symm.trans found
          rfl
        · cases read.symm.trans unreadable
        · exact absurd success failure
      · rintro rfl
        exact .found success read
  · rw [if_neg (mt isSuccess_iff.mp success)]
    constructor
    · rintro (⟨succeeded, _⟩ | ⟨succeeded, _⟩ | ⟨_, why⟩)
      · exact absurd succeeded success
      · exact absurd succeeded success
      · rw [(reason_iff unmarked).mp why]
    · rintro rfl
      exact .failed success ((reason_iff unmarked).mpr rfl)

theorem Fault.isCompileError_error (fault : Fault) : fault.error.isCompileError = false := by
  unfold Fault.error
  split
  · rfl
  · split <;> rfl

theorem Reply.isCompileError_result {unread : String → Fault} {reply : Reply} {error : Error}
    (failed : reply.result unread = .error error) : error.isCompileError = false := by
  unfold Reply.result at failed
  split at failed
  · split at failed
    · cases failed
      exact Fault.isCompileError_error _
    · split at failed
      · cases failed
      · cases failed
        exact Fault.isCompileError_error _
  · cases failed
    rfl

theorem Delivery.isCompileError_result {unread : String → Fault} {delivery : Delivery} {error : Error}
    (failed : delivery.result unread = .error error) : error.isCompileError = false := by
  unfold Delivery.result at failed
  split at failed
  · cases failed
    exact Fault.isCompileError_error _
  · exact Reply.isCompileError_result failed

/-- The stack, beside a list of the requests that it is handed. -/
def Stack.watched {σ : Type} (stack : Stack σ) : Stack (σ × List Request) where
  send state sent :=
    let (delivery, next) := stack.send state.1 sent
    (delivery, next, state.2 ++ [sent])
  unread := stack.unread

section

variable {σ : Type} (options : ConnectOptions) (stack : Stack σ) (state : σ) (query : CompiledQuery)

theorem exchange_of_error {error : Error} (failed : query.body = .error error) :
    exchange options stack state query = (⟨none, .error error, []⟩, state) := by
  rw [exchange, CompiledQuery.bodyText, failed]
  rfl

theorem exchange_of_ok {body : Json} (made : query.body = .ok body) :
    ∃ log, exchange options stack state query =
      (⟨some (request options query.database body.render),
          if isLate (effectiveTimeout options query)
              (stack.send state (request options query.database body.render)).1.delay then .error .timeout
            else (stack.send state (request options query.database body.render)).1.result stack.unread, log⟩,
        (stack.send state (request options query.database body.render)).2) := by
  rw [exchange, CompiledQuery.bodyText, made]
  simp only [Except.map]
  split
  · exact ⟨_, rfl⟩
  · exact ⟨_, rfl⟩

theorem isCompileError_exchange {error : Error}
    (failed : (exchange options stack state query).1.result = .error error) : error.isCompileError = false := by
  -- The query has been compiled already: what is left to fail is the body, the limit or what is delivered.
  cases made : query.body with
  | error fault =>
    obtain ⟨source, _, _, rfl⟩ := CompiledQuery.body_eq_error_iff.mp made
    rw [exchange_of_error options stack state query made] at failed
    cases failed
    rfl
  | ok body =>
    obtain ⟨log, done⟩ := exchange_of_ok options stack state query made
    rw [done] at failed
    dsimp only at failed
    split at failed
    · cases failed
      rfl
    · exact Delivery.isCompileError_result failed

end

section

variable {σ : Type} (accepts : String → Bool) (options : ConnectOptions) (stack : Stack σ) (config : Config) (state : σ)

theorem find_transport {spec : QuerySpec} {query : CompiledQuery} (assembled : spec.assembleWith accepts = .ok query) :
    Client.findWith accepts ⟨transport options stack, config⟩ state spec =
      ((exchange options stack state query).1.result, (exchange options stack state query).2) := by
  rw [Client.findWith, assembled]
  rfl

theorem isCompileError_find_iff (spec : QuerySpec) :
    (∃ error, (Client.findWith accepts ⟨transport options stack, config⟩ state spec).1 = .error error ∧
      error.isCompileError = true) ↔ ∃ error, spec.assembleWith accepts = .error error := by
  cases assembled : spec.assembleWith accepts with
  | error fault =>
    have refused := Condition.isCompileError_of_compileWith (QuerySpec.assembleWith_eq_error_iff.mp assembled)
    have answer : (Client.findWith accepts ⟨transport options stack, config⟩ state spec).1 = .error fault := by
      rw [Client.findWith, assembled]
    exact iff_of_true ⟨fault, answer, refused⟩ ⟨fault, rfl⟩
  | ok query =>
    rw [find_transport accepts options stack config state assembled]
    refine iff_of_false ?_ (by simp)
    rintro ⟨error, failed, compiling⟩
    rw [isCompileError_exchange options stack state query failed] at compiling
    cases compiling

end

/-- A delivery of a whole body, without a byte order mark, that no limit cuts off. -/
structure Delivery.Arrives (delivery : Delivery) (options : ConnectOptions) (query : CompiledQuery) (status : Nat)
    (body : String) : Prop where
  outcome : delivery.outcome = .ok ⟨status, .ok body⟩
  inTime : ∀ limit, (query.options.timeout <|> options.timeout) = some limit → delivery.delay ≤ limit
  unmarked : body.toList.head? ≠ some '\uFEFF'

theorem Delivery.Arrives.isLate {delivery : Delivery} {options : ConnectOptions} {query : CompiledQuery} {status : Nat}
    {body : String} (arrives : delivery.Arrives options query status body) :
    Http.isLate (effectiveTimeout options query) delivery.delay = false := by
  rw [effectiveTimeout, Http.isLate]
  cases limit : (query.options.timeout <|> options.timeout) with
  | none => rfl
  | some most =>
    have le := arrives.inTime most limit
    simpa using le

/-- A query whose body cannot be built is not sent. Any other is handed to the stack once, as a request of its own, and
a reply that comes whole and in time has the outcome that its status and its body decide. Errors of compiling are
those of queries that cannot be assembled. -/
theorem exchange_classified {σ : Type} (options : ConnectOptions) (stack : Stack σ) (state : σ)
    (query : CompiledQuery) :
    (∀ error, query.body = .error error →
      error.kind = .serialization ∧ exchange options stack state query = (⟨none, .error error, []⟩, state) ∧
        ∀ given, (exchange options stack.watched (state, given) query).2 = (state, given)) ∧
    (∀ body, query.body = .ok body →
      ∃ sent, (exchange options stack state query).1.request = some sent ∧
        Posts options query.database body sent ∧
        (∀ given, (exchange options stack.watched (state, given) query).2 =
          ((exchange options stack state query).2, given ++ [sent])) ∧
        ∀ status text, (stack.send state sent).1.Arrives options query status text →
          ∀ result, (exchange options stack state query).1.result = result ↔
            Outcome stack.unread status text result) ∧
    (∀ error, (exchange options stack state query).1.result = .error error → error.isCompileError = false) ∧
    ∀ (accepts : String → Bool) (config : Config) (spec : QuerySpec),
      ((∃ error, (Client.findWith accepts ⟨transport options stack, config⟩ state spec).1 = .error error ∧
          error.isCompileError = true) ↔ ∃ error, spec.assembleWith accepts = .error error) ∧
      (spec.assembleWith accepts = .ok query →
        Client.findWith accepts ⟨transport options stack, config⟩ state spec =
          ((exchange options stack state query).1.result, (exchange options stack state query).2)) := by
  refine ⟨?_, ?_, fun _ => isCompileError_exchange options stack state query, fun accepts config spec =>
    ⟨isCompileError_find_iff accepts options stack config state spec,
      find_transport accepts options stack config state⟩⟩
  · intro error failed
    obtain ⟨source, _, _, rfl⟩ := CompiledQuery.body_eq_error_iff.mp failed
    refine ⟨rfl, exchange_of_error options stack state query failed, fun given => ?_⟩
    rw [exchange_of_error options stack.watched (state, given) query failed]
  · intro body made
    obtain ⟨log, done⟩ := exchange_of_ok options stack state query made
    refine ⟨request options query.database body.render, ?_, posts_request options query.database body, ?_, ?_⟩
    · rw [done]
    · intro given
      obtain ⟨_, watched⟩ := exchange_of_ok options stack.watched (state, given) query made
      rw [watched, done]
      rfl
    · intro status text arrives result
      rw [done, outcome_iff arrives.unmarked, arrives.isLate, Delivery.result, arrives.outcome]
      rfl

def limitedOptions : ConnectOptions :=
  { ConnectOptions.ofUrl "http://localhost/" with username := some "anna", timeout := some 5 }

def filmQuery : CompiledQuery := (QuerySpec.ofDatabase "my films").compiledWith .empty

def filmBody : Json := .object [("selector", .object [("_id", .object [("$gt", .null)])])]

def missingBody : String := "\x7b\"reason\":\"missing\",\"error\":\"not_found\",\"docs\":[]\x7d"

def missingStack : Stack Nat where
  send count _ := (⟨5, .ok ⟨404, .ok missingBody⟩⟩, count + 1)
  unread _ := ⟨false, none, "error decoding response body"⟩

theorem exchange_classified_missing :
    FindResponse.ofText? missingBody = some (.ofDocs []) ∧
      ∃ sent, Posts limitedOptions "my films" filmBody sent ∧
        (missingStack.send 0 sent).1.Arrives limitedOptions filmQuery 404 missingBody ∧
        (exchange limitedOptions missingStack.watched (0, []) filmQuery).2 = (1, [sent]) ∧
        (exchange limitedOptions missingStack 0 filmQuery).1.result = .error (.http 404 "not_found: missing") := by
  have found : FindResponse.ofText? missingBody = some (.ofDocs []) := by cbv
  have read : ErrorReport.ofText? missingBody = some ⟨"not_found", "missing"⟩ := by cbv
  obtain ⟨_, posted, _⟩ := exchange_classified limitedOptions missingStack 0 filmQuery
  obtain ⟨sent, _, posts, once, outcome⟩ := posted filmBody rfl
  have arrives : (missingStack.send 0 sent).1.Arrives limitedOptions filmQuery 404 missingBody := by
    refine ⟨rfl, fun limit set => ?_, by decide⟩
    cases set
    exact Nat.le_refl 5
  exact ⟨found, sent, posts, arrives, once [],
    (outcome 404 missingBody arrives _).mpr (.failed (by decide) (.explained read (by decide)))⟩

end FindQuery.Http
