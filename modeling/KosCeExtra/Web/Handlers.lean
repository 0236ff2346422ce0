import Mathlib.Data.List.Infix
import KosCeExtra.Library.TextStream
import KosCeExtra.Library.Traced

/-!
# Requests, responses and the URI handlers of the web server

The request handlers of `examples/jwt/web_server` as functions of the request
and of what surrounds the server: the token service behind its IPC proxy and
the file system.  A handler records every proxy call and every file it opens;
an exception of the proxy ends the handler, as nothing in it catches one.

A text is a list of characters, one for each byte.
-/

namespace KosCeExtra.Web

abbrev Text := List Char

/-- `http::verb`.  The server tells GET from the rest. -/
inductive Verb where
  | get
  | other (code : Nat)
  deriving DecidableEq, Repr

inductive Status where
  | ok
  | badRequest
  | notFound
  | methodNotAllowed
  | internalServerError
  deriving DecidableEq, Repr

structure Request where
  method : Verb
  target : Text
  version : Nat
  keepAlive : Bool
  deriving DecidableEq, Repr

inductive Body where
  | string (text : Text)
  | file (content : Text)
  deriving DecidableEq, Repr

def Body.size : Body → Nat
  | .string text => text.length
  | .file content => content.length

structure Response where
  status : Status
  version : Nat
  server : Text
  contentType : Text
  contentLength : Nat
  keepAlive : Bool
  body : Body
  deriving DecidableEq, Repr

/-- What the generated proxy throws: an argument over its IDL bound, or a call
that failed for the reason in the text. -/
inductive Exception where
  | doesNotFit (size bound : Nat)
  | callFailed (what : Text)
  deriving DecidableEq, Repr

/-- The outcome of opening a file in `file_mode::scan`. -/
inductive FileAccess where
  | opened (content : Text)
  | noSuchFile
  | failed (message : Text)
  deriving DecidableEq, Repr

/-- What surrounds the server while it handles one request. -/
structure Environment where
  beastVersion : Text
  generate : Except Exception Text
  verify : Text → Except Exception Bool
  openFile : Text → FileAccess

inductive Call where
  | generate
  | verify (token : Text)
  | openFile (path : Text)
  deriving DecidableEq, Repr

/-- `MaxTokenSize` of `IToken.idl`. -/
def maxTokenSize : Nat := 5120

namespace IToken

def generate (env : Environment) : Traced Call Exception Text :=
  .call .generate env.generate

/-- The proxy refuses a token over the IDL bound before it calls. -/
def answer (env : Environment) (token : Text) : Except Exception Bool :=
  if maxTokenSize < token.length then
    .error (.doesNotFit token.length maxTokenSize)
  else
    env.verify token

def verify (env : Environment) (token : Text) : Traced Call Exception Bool :=
  .call (.verify token) (answer env token)

end IToken

abbrev HandleRequestCallback :=
  Environment → Request → Traced Call Exception (Option Response)

def makeErrorResponse (env : Environment) (req : Request) (errCode : Status)
    (why : Text) : Response where
  status := errCode
  version := req.version
  server := env.beastVersion
  contentType := "text/html".toList
  contentLength := why.length
  keepAlive := req.keepAlive
  body := .string why

/-- The string responses of the two token handlers. -/
def plainResponse (env : Environment) (req : Request) (body : Text) :
    Response where
  status := .ok
  version := req.version
  server := env.beastVersion
  contentType := "text/plain".toList
  contentLength := body.length
  keepAlive := req.keepAlive
  body := .string body

structure HttpUriHandler where
  docRoot : Text
  httpMethods : Verb → Option HandleRequestCallback

namespace HttpUriHandler

def ofDocRoot (docRoot : Text) : HttpUriHandler :=
  ⟨docRoot, fun _ => none⟩

def setMethodHandler (handler : HttpUriHandler) (method : Verb)
    (callback : HandleRequestCallback) : HttpUriHandler where
  docRoot := handler.docRoot
  httpMethods := Function.update handler.httpMethods method (some callback)

def handleRequest (handler : HttpUriHandler) : HandleRequestCallback :=
  fun env req =>
    match handler.httpMethods req.method with
    | some callback => callback env req
    | none => pure none

/-- A handler with one callback answers that verb only. -/
theorem handleRequest_single (docRoot : Text) (callback : HandleRequestCallback)
    (env : Environment) (req : Request) :
    ((ofDocRoot docRoot).setMethodHandler .get callback).handleRequest env req =
      if req.method = .get then callback env req else pure none := by
  unfold handleRequest setMethodHandler ofDocRoot
  by_cases isGet : req.method = .get
  · simp [isGet]
  · simp [isGet]

end HttpUriHandler

/-! ## Static content -/

namespace AllRequestHandler

/-- `beast::iequals`. -/
def iequals (left right : Text) : Bool :=
  left.map Char.toLower == right.map Char.toLower

/-- The path from its last dot on; nothing without a dot. -/
def extension (path : Text) : Text :=
  if '.' ∈ path then
    '.' :: (path.reverse.takeWhile (· != '.')).reverse
  else
    []

def mimeTypes : List (String × String) :=
  [(".htm", "text/html"), (".html", "text/html"), (".php", "text/html"),
    (".css", "text/css"), (".txt", "text/plain"), (".png", "image/png"),
    (".jpe", "image/jpeg"), (".jpeg", "image/jpeg"), (".jpg", "image/jpeg"),
    (".ico", "image/vnd.microsoft.icon"), (".svg", "image/svg+xml"),
    (".svgz", "image/svg+xml")]

def getMimeType (path : Text) : Text :=
  match mimeTypes.find? (fun entry =>
      iequals (extension path) entry.1.toList) with
  | some entry => entry.2.toList
  | none => "application/text".toList

def concatPath (base path : Text) : Text :=
  if base = [] then
    path
  else if base.getLast? = some '/' then
    base.dropLast ++ path
  else
    base ++ path

/-- The text a C function sees: the characters before the first NUL. -/
def cStr (text : Text) : Text :=
  text.takeWhile (· != '\x00')

/-- The path `handleGet` builds from the document root and the target. -/
def filePath (docRoot target : Text) : Text :=
  let path := concatPath docRoot target
  if path.getLast? = some '/' then path ++ "index.html".toList else path

def handleGet (docRoot : Text) : HandleRequestCallback := fun env req =>
  if req.method ≠ .get then
    pure none
  else do
    let path := filePath docRoot req.target
    let access ← Traced.call (.openFile (cStr path))
      (.ok (env.openFile (cStr path)))
    match access with
    | .noSuchFile =>
        pure (some (makeErrorResponse env req .notFound
          ("The resource '".toList ++ req.target ++ "' was not found.".toList)))
    | .failed message =>
        pure (some (makeErrorResponse env req .internalServerError message))
    | .opened content =>
        pure (some {
          status := .ok
          version := req.version
          server := env.beastVersion
          contentType := getMimeType path
          contentLength := (Body.file content).size
          keepAlive := req.keepAlive
          body := .file content })

end AllRequestHandler

def allRequestHandler (docRoot : Text) : HttpUriHandler :=
  (HttpUriHandler.ofDocRoot docRoot).setMethodHandler .get
    (AllRequestHandler.handleGet docRoot)

/-! ## Tokens -/

namespace GetTokenHandler

def handleGet : HandleRequestCallback := fun env req =>
  if req.method ≠ .get then
    pure none
  else do
    let token ← IToken.generate env
    pure (some (plainResponse env req token))

end GetTokenHandler

def getTokenHandler (docRoot : Text) : HttpUriHandler :=
  (HttpUriHandler.ofDocRoot docRoot).setMethodHandler .get
    GetTokenHandler.handleGet

namespace GetDataHandler

/-- The `while` loop of `GetParamValue`, with the strings it reads into. -/
def paramLoop (stream : TextStream) (key val name : Text) : Text :=
  let keyRead := stream.getline key '='
  if _ : keyRead.1.ok = true then
    let valRead := keyRead.1.getline val '&'
    if _ : valRead.1.ok = true then
      if keyRead.2 = name then
        valRead.2
      else
        paramLoop valRead.1 keyRead.2 valRead.2 name
    else
      []
  else
    []
  termination_by stream.rest.length
  decreasing_by
    have keyShorter : keyRead.1.rest.length < stream.rest.length :=
      TextStream.getline_rest_lt (by assumption)
    have valShorter : valRead.1.rest.length < keyRead.1.rest.length :=
      TextStream.getline_rest_lt (by assumption)
    exact Nat.lt_trans valShorter keyShorter

def getParamValue (uri name : Text) : Text :=
  let path := (TextStream.ofText uri).getline [] '?'
  paramLoop path.1 path.2 [] name

def successBody : Text :=
  "<div class=\"success\">Data access succeeded</div>".toList

def errorBody : Text :=
  "<div class=\"error\">Wrong token or token service unavailable</div>".toList

def handleGet : HandleRequestCallback := fun env req =>
  if req.method ≠ .get then
    pure none
  else do
    let token := getParamValue req.target "jwt".toList
    let result ← IToken.verify env token
    pure (some (plainResponse env req
      (if result then successBody else errorBody)))

end GetDataHandler

def getDataHandler (docRoot : Text) : HttpUriHandler :=
  (HttpUriHandler.ofDocRoot docRoot).setMethodHandler .get
    GetDataHandler.handleGet

end KosCeExtra.Web
