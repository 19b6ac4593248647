import FindQuery.Error
import FindQuery.Response.Basic

namespace FindQuery.Http

def isSuccess (status : Nat) : Bool := 200 ≤ status && status ≤ 299

def phrases : List (Nat × String) :=
  [(100, "Continue"), (101, "Switching Protocols"), (102, "Processing"), (103, "Early Hints"),
   (200, "OK"), (201, "Created"), (202, "Accepted"), (203, "Non Authoritative Information"),
   (204, "No Content"), (205, "Reset Content"), (206, "Partial Content"), (207, "Multi-Status"),
   (208, "Already Reported"), (226, "IM Used"),
   (300, "Multiple Choices"), (301, "Moved Permanently"), (302, "Found"), (303, "See Other"),
   (304, "Not Modified"), (305, "Use Proxy"), (307, "Temporary Redirect"), (308, "Permanent Redirect"),
   (400, "Bad Request"), (401, "Unauthorized"), (402, "Payment Required"), (403, "Forbidden"),
   (404, "Not Found"), (405, "Method Not Allowed"), (406, "Not Acceptable"),
   (407, "Proxy Authentication Required"), (408, "Request Timeout"), (409, "Conflict"), (410, "Gone"),
   (411, "Length Required"), (412, "Precondition Failed"), (413, "Payload Too Large"),
   (414, "URI Too Long"), (415, "Unsupported Media Type"), (416, "Range Not Satisfiable"),
   (417, "Expectation Failed"), (418, "I'm a teapot"), (421, "Misdirected Request"),
   (422, "Unprocessable Entity"), (423, "Locked"), (424, "Failed Dependency"), (425, "Too Early"),
   (426, "Upgrade Required"), (428, "Precondition Required"), (429, "Too Many Requests"),
   (431, "Request Header Fields Too Large"), (451, "Unavailable For Legal Reasons"),
   (500, "Internal Server Error"), (501, "Not Implemented"), (502, "Bad Gateway"),
   (503, "Service Unavailable"), (504, "Gateway Timeout"), (505, "HTTP Version Not Supported"),
   (506, "Variant Also Negotiates"), (507, "Insufficient Storage"), (508, "Loop Detected"),
   (510, "Not Extended"), (511, "Network Authentication Required")]

def statusLine (status : Nat) : String :=
  toString status ++ " " ++ (phrases.lookup status).getD "<unknown status code>"

structure Fault where
  timedOut : Bool
  status : Option Nat
  text : String
  deriving DecidableEq, Repr

def Fault.error (fault : Fault) : Error :=
  if fault.timedOut then .timeout
  else match fault.status with
    | some status => .http status fault.text
    | none => .connection fault.text

/-- A reply of the store. Its body follows the status, and may fail to come whole. -/
structure Reply where
  status : Nat
  body : Except Fault String

namespace Reply

/-- The text of the body without a byte order mark. It is empty where the body has not come whole. -/
def text (reply : Reply) : String :=
  match reply.body with
  | .error _ => ""
  | .ok body =>
    match body.toList with
    | '\uFEFF' :: rest => String.ofList rest
    | _ => body

def failureReason (reply : Reply) : String :=
  match ErrorReport.ofText? reply.text with
  | some report => report.summary
  | none => reply.text

/-- A success holds documents. Where its body does not, `unread` is what the stack says of it. -/
def result (unread : String → Fault) (reply : Reply) : Except Error FindResponse :=
  if isSuccess reply.status then
    match reply.body with
    | .error fault => .error fault.error
    | .ok body =>
      match FindResponse.ofText? body with
      | some response => .ok response
      | none => .error (unread body).error
  else .error (.http reply.status reply.failureReason)

def warnings (reply : Reply) (database : String) : List String :=
  if isSuccess reply.status then []
  else
    ["find on " ++ database ++ " failed with " ++ statusLine reply.status ++ ": " ++ reply.failureReason]

end Reply

end FindQuery.Http
