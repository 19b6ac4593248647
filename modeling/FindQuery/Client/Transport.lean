import FindQuery.Query.Assemble
import FindQuery.Response.Record

namespace FindQuery

structure Transport (σ : Type) where
  send : σ → CompiledQuery → Except Error FindResponse × σ

structure Client (σ : Type) where
  transport : Transport σ
  config : Config

namespace Client

variable {σ : Type}

def ofTransport (transport : Transport σ) : Client σ := ⟨transport, .standard⟩

def withConfig (client : Client σ) (config : Config) : Client σ := { client with config }

def query (client : Client σ) (database : String) : QuerySpec :=
  (QuerySpec.ofDatabase database).apply (.config client.config)

section

variable (accepts : String → Bool)

/-- Compiles a description and sends it. What cannot be compiled does not reach the transport. -/
def findWith (client : Client σ) (state : σ) (spec : QuerySpec) : Except Error FindResponse × σ :=
  match spec.assembleWith accepts with
  | .ok query => client.transport.send state query
  | .error error => (.error error, state)

def findRecordsWith (α : Type) [Record α] (client : Client σ) (state : σ) (spec : QuerySpec) :
    Except Error (List α) × σ :=
  let (answer, state) := client.findWith accepts state spec
  (answer.bind (FindResponse.records α), state)

end

def find (client : Client σ) (state : σ) (spec : QuerySpec) : Except Error FindResponse × σ :=
  client.findWith Pattern.accepts state spec

def findRecords (α : Type) [Record α] (client : Client σ) (state : σ) (spec : QuerySpec) :
    Except Error (List α) × σ :=
  client.findRecordsWith Pattern.accepts α state spec

end Client

structure SentQuery where
  database : String
  body : String
  deriving DecidableEq, Repr

/-- Keeps every query whose body can be built, and answers each with the same documents. -/
def Transport.recording (docs : List Json) : Transport (List SentQuery) where
  send sent query :=
    match query.bodyText with
    | .ok body => (.ok (.ofDocs docs), sent ++ [⟨query.database, body⟩])
    | .error error => (.error error, sent)

end FindQuery
