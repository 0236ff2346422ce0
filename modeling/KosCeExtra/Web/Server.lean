import KosCeExtra.Web.Handlers

/-!
# Routing, and what the back end can do to it

`WebServer` keeps a handler for each registered URI and one for all the
others.  `handleRequest` rejects a bad target, picks a handler by the target
up to its first question mark and turns a refusal into a 405 response.  The
routing lemmas say which handler that is; the last section says exactly when
an exception of the token service leaves `handleRequest`.
-/

namespace KosCeExtra.Web

structure WebServer where
  uriHandlers : Text → Option HttpUriHandler
  defaultHandler : Option HttpUriHandler

/-- The text no target may hold. -/
def dotDot : Text := "..".toList

/-- The first test of `WebServer::HandleRequest`. -/
def IllegalTarget (target : Text) : Prop :=
  target = [] ∨ target.head? ≠ some '/' ∨ dotDot <:+: target

instance (target : Text) : Decidable (IllegalTarget target) :=
  inferInstanceAs (Decidable (_ ∨ _ ∨ _))

/-- The target up to the first question mark. -/
def uriOf (target : Text) : Text :=
  target.takeWhile (· != '?')

namespace WebServer

/-- The constructor, which registers no URI. -/
def ofDefaultHandler (defaultHandler : Option HttpUriHandler) : WebServer :=
  ⟨fun _ => none, defaultHandler⟩

def setHandler (server : WebServer) (uri : Text) (handler : HttpUriHandler) :
    WebServer :=
  if uri ≠ [] then
    { server with
      uriHandlers := Function.update server.uriHandlers uri (some handler) }
  else
    { server with defaultHandler := some handler }

def removeHandler (server : WebServer) (uri : Text) : WebServer :=
  if uri ≠ [] then
    { server with uriHandlers := Function.update server.uriHandlers uri none }
  else
    { server with defaultHandler := none }

/-- The handler `handleRequest` consults for a URI. -/
def route (server : WebServer) (uri : Text) : Option HttpUriHandler :=
  match server.uriHandlers uri with
  | some handler => some handler
  | none => server.defaultHandler

def handleRequest (server : WebServer) (env : Environment) (req : Request) :
    Traced Call Exception Response :=
  if IllegalTarget req.target then
    pure (makeErrorResponse env req .badRequest
      "Illegal request-target".toList)
  else do
    let res ←
      match server.route (uriOf req.target) with
      | some handler => handler.handleRequest env req
      | none => pure none
    match res with
    | some response => pure response
    | none =>
        pure (makeErrorResponse env req .methodNotAllowed
          "Unknown HTTP-method".toList)

/-! ## What a routed request comes to -/

theorem handleRequest_illegal {server : WebServer} {env : Environment}
    {req : Request} (illegal : IllegalTarget req.target) :
    server.handleRequest env req =
      pure (makeErrorResponse env req .badRequest
        "Illegal request-target".toList) := by
  simp [handleRequest, illegal]

section Routed

variable {server : WebServer} {env : Environment} {req : Request}
variable {handler : HttpUriHandler}

/-- The calls of a routed request are the calls of its handler. -/
theorem handleRequest_calls (legal : ¬ IllegalTarget req.target)
    (routed : server.route (uriOf req.target) = some handler) :
    (server.handleRequest env req).calls =
      (handler.handleRequest env req).calls := by
  simp only [handleRequest, legal, if_false, routed]
  cases answer : (handler.handleRequest env req).result with
  | error exception => rw [Traced.bind_of_error answer]
  | ok res =>
      rw [Traced.bind_of_ok answer]
      cases res <;> simp

/-- An answer of the handler is the answer of the server. -/
theorem handleRequest_answered (legal : ¬ IllegalTarget req.target)
    (routed : server.route (uriOf req.target) = some handler)
    {response : Response}
    (answered : (handler.handleRequest env req).result =
      .ok (some response)) :
    (server.handleRequest env req).result = .ok response := by
  simp only [handleRequest, legal, if_false, routed]
  rw [Traced.bind_of_ok answered]
  rfl

/-- The server returns exactly when the handler does. -/
theorem handleRequest_returns_iff_handler (legal : ¬ IllegalTarget req.target)
    (routed : server.route (uriOf req.target) = some handler) :
    (∃ response, (server.handleRequest env req).result = .ok response) ↔
      ∃ res, (handler.handleRequest env req).result = .ok res := by
  simp only [handleRequest, legal, if_false, routed, Traced.bind_result_ok]
  constructor
  · rintro ⟨response, res, answer, -⟩
    exact ⟨res, answer⟩
  · rintro ⟨res, answer⟩
    cases res with
    | none => exact ⟨_, none, answer, rfl⟩
    | some response => exact ⟨response, some response, answer, rfl⟩

end Routed

end WebServer

/-! ## The server `main` sets up -/

def mainServer (docRoot : Text) : WebServer :=
  (((WebServer.ofDefaultHandler none).setHandler [] (allRequestHandler docRoot)
    ).setHandler "/gettoken".toList (getTokenHandler docRoot)
    ).setHandler "/getdata".toList (getDataHandler docRoot)

theorem mainServer_route_getData (docRoot : Text) :
    (mainServer docRoot).route "/getdata".toList =
      some (getDataHandler docRoot) := by
  simp [mainServer, WebServer.setHandler, WebServer.route]

theorem mainServer_route_getToken (docRoot : Text) :
    (mainServer docRoot).route "/gettoken".toList =
      some (getTokenHandler docRoot) := by
  simp [mainServer, WebServer.setHandler, WebServer.route]

theorem mainServer_route_default (docRoot : Text) {uri : Text}
    (notToken : uri ≠ "/gettoken".toList)
    (notData : uri ≠ "/getdata".toList) :
    (mainServer docRoot).route uri = some (allRequestHandler docRoot) := by
  simp only [String.reduceToList] at notToken notData
  simp [mainServer, WebServer.setHandler, WebServer.route,
    WebServer.ofDefaultHandler, notToken, notData]

/-! ## When each handler returns -/

theorem allRequestHandler_returns (docRoot : Text) (env : Environment)
    (req : Request) :
    ∃ res,
      ((allRequestHandler docRoot).handleRequest env req).result = .ok res := by
  rw [allRequestHandler, HttpUriHandler.handleRequest_single]
  by_cases isGet : req.method = .get
  · rw [if_pos isGet, AllRequestHandler.handleGet, if_neg (not_not.mpr isGet),
      Traced.bind_of_ok (Traced.result_call _ _)]
    cases env.openFile _ with
    | opened content => exact ⟨_, rfl⟩
    | noSuchFile => exact ⟨_, rfl⟩
    | failed message => exact ⟨_, rfl⟩
  · rw [if_neg isGet]
    exact ⟨none, rfl⟩

theorem getTokenHandler_returns_iff (docRoot : Text) (env : Environment)
    (req : Request) :
    (∃ res, ((getTokenHandler docRoot).handleRequest env req).result = .ok res) ↔
      ¬ (req.method = .get ∧ ∃ exception, env.generate = .error exception) := by
  rw [getTokenHandler, HttpUriHandler.handleRequest_single]
  by_cases isGet : req.method = .get
  · rw [if_pos isGet, GetTokenHandler.handleGet, if_neg (not_not.mpr isGet)]
    simp only [Traced.bind_result_ok, IToken.generate, Traced.result_call]
    cases env.generate <;> simp [isGet]
  · simp [isGet]

/-- The token `/getdata` hands to the proxy. -/
abbrev requestToken (req : Request) : Text :=
  GetDataHandler.getParamValue req.target "jwt".toList

theorem answer_error_iff (env : Environment) (token : Text) :
    (∃ exception, IToken.answer env token = .error exception) ↔
      maxTokenSize < token.length ∨
        ∃ exception, env.verify token = .error exception := by
  unfold IToken.answer
  by_cases tooLong : maxTokenSize < token.length
  · simp [tooLong]
  · simp [tooLong]

theorem IToken.result_verify (env : Environment) (token : Text) :
    (IToken.verify env token).result = IToken.answer env token :=
  rfl

theorem getDataHandler_returns_iff (docRoot : Text) (env : Environment)
    (req : Request) :
    (∃ res, ((getDataHandler docRoot).handleRequest env req).result = .ok res) ↔
      ¬ (req.method = .get ∧
        ∃ exception,
          IToken.answer env (requestToken req) = .error exception) := by
  rw [getDataHandler, HttpUriHandler.handleRequest_single]
  by_cases isGet : req.method = .get
  · rw [if_pos isGet, GetDataHandler.handleGet, if_neg (not_not.mpr isGet)]
    have verified := IToken.result_verify env (requestToken req)
    cases answer : IToken.answer env (requestToken req) with
    | error exception =>
        rw [Traced.bind_of_error (verified.trans answer)]
        simp [isGet]
    | ok result =>
        rw [Traced.bind_of_ok (verified.trans answer)]
        simp
  · simp [isGet]

/-! ## The back end's failures -/

/-- The request makes the server call the token service, and that call fails:
the service does not answer, or the token is over its IDL bound. -/
def BackEndThrows (env : Environment) (req : Request) : Prop :=
  ¬ IllegalTarget req.target ∧ req.method = .get ∧
    ((uriOf req.target = "/gettoken".toList ∧
        ∃ exception, env.generate = .error exception) ∨
      (uriOf req.target = "/getdata".toList ∧
        (maxTokenSize < (requestToken req).length ∨
          ∃ exception, env.verify (requestToken req) = .error exception)))

/-- Every request gets its one response, unless the token service fails the
call the request needs: no handler catches the proxy's exception. -/
theorem mainServer_responds_iff (docRoot : Text) (env : Environment)
    (req : Request) :
    (∃! response,
      ((mainServer docRoot).handleRequest env req).result = .ok response) ↔
      ¬ BackEndThrows env req := by
  have unique : (∃! response,
      ((mainServer docRoot).handleRequest env req).result = .ok response) ↔
      ∃ response,
        ((mainServer docRoot).handleRequest env req).result = .ok response := by
    refine ⟨ExistsUnique.exists, fun ⟨response, answer⟩ =>
      ⟨response, answer, fun other same => ?_⟩⟩
    exact Except.ok.inj (same.symm.trans answer)
  rw [unique]
  by_cases illegal : IllegalTarget req.target
  · rw [WebServer.handleRequest_illegal illegal]
    exact ⟨fun _ throws => throws.1 illegal, fun _ => ⟨_, rfl⟩⟩
  by_cases isToken : uriOf req.target = "/gettoken".toList
  · have routed := isToken ▸ mainServer_route_getToken docRoot
    rw [WebServer.handleRequest_returns_iff_handler illegal routed,
      getTokenHandler_returns_iff]
    simp [BackEndThrows, illegal, isToken]
  by_cases isData : uriOf req.target = "/getdata".toList
  · have routed := isData ▸ mainServer_route_getData docRoot
    rw [WebServer.handleRequest_returns_iff_handler illegal routed,
      getDataHandler_returns_iff, answer_error_iff]
    simp [BackEndThrows, illegal, isData]
  · have routed := mainServer_route_default docRoot isToken isData
    rw [WebServer.handleRequest_returns_iff_handler illegal routed]
    refine iff_of_true (allRequestHandler_returns docRoot env req) ?_
    rintro ⟨-, -, ⟨same, -⟩ | ⟨same, -⟩⟩
    · exact isToken same
    · exact isData same

/-- A server whose token service is not running. -/
def withoutTokenService : Environment where
  beastVersion := "Boost.Beast".toList
  generate := .error (.callFailed "no such channel".toList)
  verify := fun _ => .error (.callFailed "no such channel".toList)
  openFile := fun _ => .noSuchFile

def getTokenRequest : Request where
  method := .get
  target := "/gettoken".toList
  version := 11
  keepAlive := true

/-- With the token service away, GET /gettoken ends in an exception. -/
theorem mainServer_getToken_throws :
    ¬ ∃! response,
      ((mainServer "/www".toList).handleRequest withoutTokenService
        getTokenRequest).result = .ok response := by
  have threw : ((mainServer "/www".toList).handleRequest withoutTokenService
      getTokenRequest).result =
        .error (.callFailed "no such channel".toList) := by
    rfl
  rintro ⟨response, answer, -⟩
  rw [threw] at answer
  cases answer

end KosCeExtra.Web
