import FindQuery.Client.Transport
import FindQuery.Http.Reply
import FindQuery.Http.Url

namespace FindQuery.Http

structure Credentials where
  username : String
  password : Option String
  deriving DecidableEq, Repr

/-- What the HTTP stack is asked to send. It reads the URL by itself, with any credentials that stand in it,
and fails if it cannot be used. -/
structure Request where
  method : String
  url : String
  contentType : String
  body : String
  credentials : Option Credentials
  deriving DecidableEq, Repr

/-- What comes of a request, some milliseconds after it is handed over. -/
structure Delivery where
  delay : Nat
  outcome : Except Fault Reply

structure Stack (σ : Type) where
  send : σ → Request → Delivery × σ
  /-- What is said of the body of a success that holds no documents. -/
  unread : String → Fault

structure Exchange where
  request : Option Request
  result : Except Error FindResponse
  log : List (LogLevel × String)

def request (options : ConnectOptions) (database body : String) : Request where
  method := "POST"
  url := findUrl options database
  contentType := "application/json"
  body := body
  credentials := options.username.map fun username => ⟨username, options.password⟩

def effectiveTimeout (options : ConnectOptions) (query : CompiledQuery) : Option Nat :=
  query.options.timeout <|> options.timeout

def isLate (limit : Option Nat) (delay : Nat) : Bool := limit.any (· < delay)

def Delivery.result (unread : String → Fault) (delivery : Delivery) : Except Error FindResponse :=
  match delivery.outcome with
  | .error fault => .error fault.error
  | .ok reply => reply.result unread

def Delivery.warnings (database : String) (delivery : Delivery) : List String :=
  match delivery.outcome with
  | .error _ => []
  | .ok reply => reply.warnings database

section

variable {σ : Type} (options : ConnectOptions) (stack : Stack σ)

/-- Sends a query. The body is built first, so that a selector that is not JSON is never sent. What comes after
the limit is not waited for; the request has been handed over by then. -/
def exchange (state : σ) (query : CompiledQuery) : Exchange × σ :=
  match query.bodyText with
  | .error error => (⟨none, .error error, []⟩, state)
  | .ok body =>
    let sent := request options query.database body
    let (delivery, next) := stack.send state sent
    let posting := (LogLevel.debug, "POST " ++ sent.url)
    if isLate (effectiveTimeout options query) delivery.delay then
      (⟨some sent, .error .timeout, [posting]⟩, next)
    else
      let warnings := (delivery.warnings query.database).map (LogLevel.warn, ·)
      (⟨some sent, delivery.result stack.unread, posting :: warnings⟩, next)

def transport : Transport σ where
  send state query := ((exchange options stack state query).1.result, (exchange options stack state query).2)

end

end FindQuery.Http
