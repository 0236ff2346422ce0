import KosCeExtra.Web.TokenQuery

/-!
# The token service behind the web server

`JwtTokenService` signs one payload, and of a token it is shown it tests whether the
payload has the same claim.  An error of the JWT library leaves an empty token, and a
token refused.  The library is a parameter.  Put behind the proxy of the web server, the
service decides who gets at the data, and what is handed out at `/gettoken` gets there.
-/

namespace KosCeExtra.Web

/-- The value of a claim; the service tells texts from the rest. -/
inductive ClaimValue where
  | string (text : Text)
  | other
  deriving DecidableEq, Repr

abbrev Payload := List (Text × ClaimValue)

/-- `has_claim` and `get_claim_value`. -/
def Payload.claimValue (payload : Payload) (name : Text) : Option ClaimValue :=
  (payload.find? fun claim => claim.1 = name).map Prod.snd

/-- The JWT library with HS256.  An error is an exception of it. -/
structure Jwt where
  signature : (payload : Payload) → (secret : Text) → Except Text Text
  decode : (token secret : Text) → Except Text Payload

structure JwtTokenService where
  secret : Text
  deriving DecidableEq, Repr

namespace JwtTokenService

def payloadKey : Text := "secret".toList
def payloadValue : Text := "TOKEN".toList

def generate (service : JwtTokenService) (jwt : Jwt) : Text :=
  match jwt.signature [(payloadKey, .string payloadValue)] service.secret with
  | .ok token => token
  | .error _ => []

def verify (service : JwtTokenService) (jwt : Jwt) (token : Text) : Bool :=
  match jwt.decode token service.secret with
  | .error _ => false
  | .ok payload =>
      match Payload.claimValue payload payloadKey with
      | none => false
      -- another type than a text is an exception of `get_claim_value`
      | some .other => false
      | some (.string value) => decide (value = payloadValue)

/-- The service of `main`. -/
def ofMain : JwtTokenService where
  secret := "some secret word".toList

end JwtTokenService

/-- What else surrounds the web server: the file system, and the channel to the service,
which may fail for a reason. -/
structure Surroundings where
  beastVersion : Text
  openFile : Text → FileAccess
  failure : Option Text

/-- A call through the channel. -/
def Surroundings.carry {α : Type} (around : Surroundings) (answer : Except Exception α) :
    Except Exception α :=
  match around.failure with
  | some what => .error (.callFailed what)
  | none => answer

/-- The service as the web server sees it.  A token over its IDL bound is not carried
either way; that one comes in is the proxy's own test. -/
def JwtTokenService.environment (service : JwtTokenService) (jwt : Jwt)
    (around : Surroundings) : Environment where
  beastVersion := around.beastVersion
  generate := around.carry <|
    if maxTokenSize < (service.generate jwt).length then
      .error (.doesNotFit (service.generate jwt).length maxTokenSize)
    else
      .ok (service.generate jwt)
  verify token := around.carry (.ok (service.verify jwt token))
  openFile := around.openFile

/-- The token decodes under the secret of the service to a payload with its claim. -/
def Jwt.Opens (jwt : Jwt) (service : JwtTokenService) (token : Text) : Prop :=
  ∃ payload, jwt.decode token service.secret = .ok payload ∧
    payload.claimValue JwtTokenService.payloadKey =
      some (.string JwtTokenService.payloadValue)

variable {service : JwtTokenService} {jwt : Jwt} {around : Surroundings}

theorem JwtTokenService.verify_iff (token : Text) :
    service.verify jwt token = true ↔ jwt.Opens service token := by
  unfold verify Jwt.Opens
  cases decoded : jwt.decode token service.secret with
  | error exception => simp
  | ok payload =>
      cases found : payload.claimValue payloadKey with
      | none => simp [found]
      | some value =>
          cases value with
          | other => simp [found]
          | string text => simp [found]

theorem answer_environment (token : Text) (result : Bool) :
    IToken.answer (service.environment jwt around) token = .ok result ↔
      token.length ≤ maxTokenSize ∧ around.failure = none ∧
        service.verify jwt token = result := by
  unfold IToken.answer
  by_cases tooLong : maxTokenSize < token.length
  · rw [if_pos tooLong]
    exact iff_of_false nofun fun fits => absurd fits.1 (Nat.not_le.mpr tooLong)
  · rw [if_neg tooLong]
    have fits : token.length ≤ maxTokenSize := Nat.not_lt.mp tooLong
    unfold JwtTokenService.environment Surroundings.carry
    cases around.failure with
    | some what => exact iff_of_false nofun fun carried => nomatch carried.2.1
    | none => simp [fits]

/-- The request is answered with the page that shows the data. -/
def ShowsData (docRoot : Text) (env : Environment) (req : Request) : Prop :=
  ∃ response, ((mainServer docRoot).handleRequest env req).result = .ok response ∧
    response.body = .string GetDataHandler.successBody

section ShowsData

variable {env : Environment} {req : Request}

theorem showsData_iff (docRoot : Text) (legal : ¬ IllegalTarget req.target)
    (isData : uriOf req.target = "/getdata".toList) (isGet : req.method = .get) :
    ShowsData docRoot env req ↔ IToken.answer env (requestToken req) = .ok true := by
  have routed := isData ▸ mainServer_route_getData docRoot
  have answered := (getDataHandler_verifies docRoot env isGet).2
  cases answer : IToken.answer env (requestToken req) with
  | error exception =>
      refine iff_of_false ?_ nofun
      rintro ⟨response, returned, -⟩
      have returns := (WebServer.handleRequest_returns_iff_handler legal routed).mp
        ⟨response, returned⟩
      exact (getDataHandler_returns_iff docRoot env req).mp returns
        ⟨isGet, exception, answer⟩
  | ok result =>
      unfold ShowsData
      rw [WebServer.handleRequest_answered legal routed (answered result answer)]
      cases result with
      | true => exact iff_of_true ⟨_, rfl, rfl⟩ rfl
      | false =>
          refine iff_of_false ?_ nofun
          rintro ⟨response, ⟨⟩, body⟩
          have pages : Body.string GetDataHandler.errorBody ≠
              .string GetDataHandler.successBody := by decide
          exact pages body

private theorem not_showsData_illegal (docRoot : Text)
    (illegal : IllegalTarget req.target) :
    ¬ ShowsData docRoot env req := by
  unfold ShowsData
  rw [WebServer.handleRequest_illegal illegal]
  rintro ⟨response, ⟨⟩, body⟩
  have pages : Body.string "Illegal request-target".toList ≠
      .string GetDataHandler.successBody := by decide
  exact pages body

private theorem not_showsData_other (docRoot : Text)
    (legal : ¬ IllegalTarget req.target)
    (isData : uriOf req.target = "/getdata".toList) (notGet : req.method ≠ .get) :
    ¬ ShowsData docRoot env req := by
  have routed := isData ▸ mainServer_route_getData docRoot
  unfold ShowsData
  rw [WebServer.handleRequest, if_neg legal, routed]
  simp only
  rw [getDataHandler, HttpUriHandler.handleRequest_single, if_neg notGet]
  rintro ⟨response, ⟨⟩, body⟩
  have pages : Body.string "Unknown HTTP-method".toList ≠
      .string GetDataHandler.successBody := by decide
  exact pages body

end ShowsData

/-- At `/getdata` the data are shown exactly to a GET of a legal target whose token is
no longer than its bound, reaches the service, and decodes under the secret of the
service to a payload with its claim. -/
theorem data_shown_iff (docRoot : Text) (service : JwtTokenService) (jwt : Jwt)
    (around : Surroundings) (req : Request)
    (isData : uriOf req.target = "/getdata".toList) :
    ShowsData docRoot (service.environment jwt around) req ↔
      ¬ IllegalTarget req.target ∧ req.method = .get ∧
        (requestToken req).length ≤ maxTokenSize ∧ around.failure = none ∧
          jwt.Opens service (requestToken req) := by
  by_cases illegal : IllegalTarget req.target
  · exact iff_of_false (not_showsData_illegal docRoot illegal) fun shown =>
      shown.1 illegal
  by_cases isGet : req.method = .get
  · rw [showsData_iff docRoot illegal isData isGet, answer_environment,
      JwtTokenService.verify_iff]
    constructor
    · exact fun opens => ⟨illegal, isGet, opens⟩
    · exact fun shown => shown.2.2
  · exact iff_of_false (not_showsData_other docRoot illegal isData isGet) fun shown =>
      isGet shown.2.1

/-- A library that knows one token. -/
def sampleJwt : Jwt where
  signature payload _ :=
    if payload = [(JwtTokenService.payloadKey, .string JwtTokenService.payloadValue)] then
      .ok sampleToken.text
    else
      .error "unknown payload".toList
  decode token _ :=
    if token = sampleToken.text then
      .ok [(JwtTokenService.payloadKey, .string JwtTokenService.payloadValue)]
    else
      .error "invalid signature".toList

/-- A running service, and no files. -/
def atRest : Surroundings where
  beastVersion := "Boost.Beast".toList
  openFile := fun _ => .noSuchFile
  failure := none

theorem data_shown_to_sample :
    ShowsData "/www".toList (JwtTokenService.ofMain.environment sampleJwt atRest)
      (dataRequest 11 true [] sampleToken []) := by
  have found : requestToken (dataRequest 11 true [] sampleToken []) =
      sampleToken.text := getParamValue_dataTarget [] sampleToken []
  apply (data_shown_iff _ _ _ _ _ rfl).mpr
  rw [found]
  exact ⟨by decide, rfl, by decide, rfl, _, rfl, rfl⟩

/-! ## What is handed out -/

end KosCeExtra.Web
