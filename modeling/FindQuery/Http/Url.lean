import FindQuery.Text.Escapes

namespace FindQuery.Http

structure ConnectOptions where
  baseUrl : String
  username : Option String
  password : Option String
  /-- In milliseconds. -/
  timeout : Option Nat
  deriving DecidableEq, Repr

def trimSlashes (url : List Char) : List Char := (url.reverse.dropWhile (· = '/')).reverse

namespace ConnectOptions

def ofUrl (url : String) : ConnectOptions :=
  ⟨String.ofList (trimSlashes url.toList), none, none, none⟩

def standard : ConnectOptions := ofUrl "http://localhost:5984"

def withAuth (options : ConnectOptions) (username password : String) : ConnectOptions :=
  { options with username := some username, password := some password }

def withTimeout (options : ConnectOptions) (milliseconds : Nat) : ConnectOptions :=
  { options with timeout := some milliseconds }

end ConnectOptions

def findEndpoint : String := "_find"

def findUrl (options : ConnectOptions) (database : String) : String :=
  options.baseUrl ++ "/" ++ String.ofList (Text.Percent.encode database) ++ "/" ++ findEndpoint

def segments (path : List Char) : List (List Char) := path.splitOn '/'

/-- Resolves segments from left to right; those that remain are held in reverse. One dot stands for the
segment it is under, two for the one above that. Where a dot segment is last, a slash remains after it. -/
def resolveFrom (kept : List (List Char)) : List (List Char) → List (List Char)
  | [] => kept.reverse
  | ['.'] :: rest => resolveFrom (if rest.isEmpty then [] :: kept else kept) rest
  | ['.', '.'] :: rest =>
    resolveFrom (if rest.isEmpty then [] :: kept.tail else kept.tail) rest
  | segment :: rest => resolveFrom (segment :: kept) rest

def joinSegments (parts : List (List Char)) : List Char := parts.flatMap fun part => '/' :: part

def removeDotSegments (path : List Char) : List Char :=
  joinSegments (resolveFrom [] ((segments path).drop 1))

def afterHost : List Char → List Char
  | ':' :: '/' :: '/' :: rest => rest.dropWhile (· ≠ '/')
  | [] => []
  | _ :: rest => afterHost rest

/-- The path that a request for a URL asks for. The URL is written without backslashes, a query or a fragment. -/
def requestPath (url : String) : String := String.ofList (removeDotSegments (afterHost url.toList))

end FindQuery.Http
