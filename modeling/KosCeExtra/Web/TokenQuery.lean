import KosCeExtra.Web.QueryString
import KosCeExtra.Web.Server

/-!
# The token in a query reaches the token service

A token is three base64url segments joined by dots, and a query is a list of
parameters joined by ampersands with the token among them.  The target built
from them passes the test for two dots in a row, goes to the data handler,
and the `std::getline` scan of that handler finds the token again.
-/

namespace KosCeExtra.Web

open GetDataHandler (paramLoop getParamValue)

def isBase64Url (char : Char) : Bool :=
  char.isAlphanum || char == '-' || char == '_'

structure Segment where
  text : Text
  nonempty : text ≠ []
  alphabet : ∀ char ∈ text, isBase64Url char = true

/-- A signed token as `signature()` prints it. -/
structure Token where
  header : Segment
  payload : Segment
  signature : Segment

def Token.text (token : Token) : Text :=
  token.header.text ++ '.' :: (token.payload.text ++
    '.' :: token.signature.text)

/-- One more parameter of a query, besides the token. -/
structure QueryParam where
  key : Text
  value : Text
  key_ne_jwt : key ≠ "jwt".toList
  key_no_equals : '=' ∉ key
  key_no_ampersand : '&' ∉ key
  value_no_ampersand : '&' ∉ value
  dotless : ¬ dotDot <:+: key ++ '=' :: value

def paramText (key value : Text) : Text :=
  key ++ '=' :: value

def QueryParam.text (param : QueryParam) : Text :=
  paramText param.key param.value

/-- The parameters in front of the token, the token and those behind it. -/
def tokenQuery (before : List QueryParam) (token : Token)
    (after : List QueryParam) : Text :=
  ['&'].intercalate (before.map QueryParam.text ++
    paramText "jwt".toList token.text :: after.map QueryParam.text)

def dataRequest (version : Nat) (keepAlive : Bool)
    (before : List QueryParam) (token : Token) (after : List QueryParam) :
    Request where
  method := .get
  target := "/getdata".toList ++ '?' :: tokenQuery before token after
  version := version
  keepAlive := keepAlive

/-! ## Tokens -/

theorem Segment.not_mem_of_not_base64Url (segment : Segment) {char : Char}
    (outside : isBase64Url char = false) : char ∉ segment.text := by
  intro member
  have inside := segment.alphabet char member
  rw [outside] at inside
  cases inside

private theorem Token.splitOn_dot (token : Token) :
    token.text.splitOn '.' =
      [token.header.text, token.payload.text, token.signature.text] := by
  have free : ∀ segment : Segment, '.' ∉ segment.text := fun segment =>
    segment.not_mem_of_not_base64Url (by decide)
  rw [Token.text,
    List.splitOn_append_cons_self_of_not_mem (free token.header),
    List.splitOn_append_cons_self_of_not_mem (free token.payload),
    List.splitOn_eq_singleton (free token.signature)]

theorem Token.dotless (token : Token) : ¬ dotDot <:+: token.text := by
  intro inside
  have doubled : ['.', '.'] <:+: token.text := inside
  have empty := nil_mem_splitOn_of_infix doubled
  rw [token.splitOn_dot] at empty
  simp only [List.mem_cons, List.not_mem_nil, or_false] at empty
  rcases empty with header | payload | signature
  · exact token.header.nonempty header.symm
  · exact token.payload.nonempty payload.symm
  · exact token.signature.nonempty signature.symm

private theorem Token.no_ampersand (token : Token) : '&' ∉ token.text := by
  have free : ∀ segment : Segment, '&' ∉ segment.text := fun segment =>
    segment.not_mem_of_not_base64Url (by decide)
  simp [Token.text, free]

/-! ## The target is legal and goes to the data handler -/

theorem tokenQuery_dotless (before : List QueryParam) (token : Token)
    (after : List QueryParam) :
    ¬ dotDot <:+: tokenQuery before token after := by
  intro inside
  obtain ⟨piece, member, found⟩ :=
    infix_intercalate (by decide) (by decide) inside
  rcases List.mem_append.mp member with left | right
  · obtain ⟨param, -, rfl⟩ := List.mem_map.mp left
    exact param.dotless found
  · rcases List.mem_cons.mp right with rfl | later
    · rcases infix_append_separator (by decide) found with key | value
      · exact absurd key (by decide)
      · exact token.dotless value
    · obtain ⟨param, -, rfl⟩ := List.mem_map.mp later
      exact param.dotless found

theorem dataTarget_legal {query : Text} (dotless : ¬ dotDot <:+: query) :
    ¬ IllegalTarget ("/getdata".toList ++ '?' :: query) := by
  rintro (empty | relative | inside)
  · cases empty
  · exact relative rfl
  · rcases infix_append_separator (by decide) inside with path | found
    · exact absurd path (by decide)
    · exact dotless found

/-! ## The scan finds the token -/

private theorem paramLoop_tokenQuery (before : List QueryParam) (token : Token)
    (after : List QueryParam) (oldKey oldVal : Text) :
    paramLoop (.ofText (tokenQuery before token after)) oldKey oldVal
      "jwt".toList = token.text := by
  -- The scan drops the parameters in front of the token one by one.
  induction before generalizing oldKey oldVal with
  | nil =>
      have keyFree : '=' ∉ "jwt".toList := by decide
      unfold tokenQuery
      cases after with
      | nil =>
          rw [List.map_nil, List.nil_append, List.intercalate_singleton]
          exact (paramLoop_last keyFree token.no_ampersand oldKey oldVal _).trans
            (if_pos rfl)
      | cons next rest =>
          rw [List.map_nil, List.nil_append, List.map_cons,
            List.intercalate_cons_cons, List.append_assoc,
            List.singleton_append, paramText, List.append_assoc,
            List.cons_append, paramLoop_delimited keyFree token.no_ampersand]
          exact if_pos rfl
  | cons param before induction =>
      have joined : tokenQuery (param :: before) token after =
          param.text ++ '&' :: tokenQuery before token after := by
        unfold tokenQuery
        rw [List.map_cons, List.cons_append,
          List.intercalate_cons_of_ne_nil (by simp), List.append_assoc,
          List.singleton_append]
      rw [joined, QueryParam.text, paramText, List.append_assoc,
        List.cons_append, paramLoop_delimited param.key_no_equals param.value_no_ampersand,
        if_neg param.key_ne_jwt]
      exact induction param.key param.value

theorem getParamValue_dataTarget (before : List QueryParam) (token : Token)
    (after : List QueryParam) :
    getParamValue ("/getdata".toList ++ '?' :: tokenQuery before token after)
      "jwt".toList = token.text := by
  rw [getParamValue, TextStream.getline_delimited (by decide)]
  exact paramLoop_tokenQuery before token after _ _

/-! ## The whole request -/

theorem getDataHandler_verifies (docRoot : Text) (env : Environment)
    {req : Request} (isGet : req.method = .get) :
    ((getDataHandler docRoot).handleRequest env req).calls =
        [.verify (requestToken req)] ∧
      ∀ result, IToken.answer env (requestToken req) = .ok result →
        ((getDataHandler docRoot).handleRequest env req).result =
          .ok (some (plainResponse env req (if result then
            GetDataHandler.successBody else GetDataHandler.errorBody))) := by
  rw [getDataHandler, HttpUriHandler.handleRequest_single, if_pos isGet,
    GetDataHandler.handleGet, if_neg (not_not.mpr isGet)]
  have verified := IToken.result_verify env (requestToken req)
  cases answer : IToken.answer env (requestToken req) with
  | error exception =>
      rw [Traced.bind_of_error (verified.trans answer)]
      exact ⟨rfl, fun _ same => by cases same⟩
  | ok result =>
      rw [Traced.bind_of_ok (verified.trans answer)]
      refine ⟨rfl, fun other same => ?_⟩
      rw [Except.ok.inj same]
      rfl

/-- A GET of `/getdata` whose query has the token among its parameters is
accepted, goes to the data handler and has exactly that token verified; the
success page is the answer just when the verification came out true. -/
theorem mainServer_verifies_token (docRoot : Text) (env : Environment)
    (version : Nat) (keepAlive : Bool) (before : List QueryParam)
    (token : Token) (after : List QueryParam) :
    ¬ IllegalTarget
        (dataRequest version keepAlive before token after).target ∧
      (mainServer docRoot).route
          (uriOf (dataRequest version keepAlive before token after).target) =
        some (getDataHandler docRoot) ∧
      ((mainServer docRoot).handleRequest env
          (dataRequest version keepAlive before token after)).calls =
        [.verify token.text] ∧
      ((∃ response,
          ((mainServer docRoot).handleRequest env
              (dataRequest version keepAlive before token after)).result =
            .ok response ∧
          response.body = .string GetDataHandler.successBody) ↔
        IToken.answer env token.text = .ok true) := by
  have legal := dataTarget_legal (tokenQuery_dotless before token after)
  have routed := mainServer_route_getData docRoot
  have found : requestToken
      (dataRequest version keepAlive before token after) = token.text :=
    getParamValue_dataTarget before token after
  have isGet :
      (dataRequest version keepAlive before token after).method = .get := rfl
  obtain ⟨calls, answered⟩ := getDataHandler_verifies docRoot env isGet
  rw [found] at calls answered
  refine ⟨legal, routed, ?_, ?_⟩
  · rw [WebServer.handleRequest_calls legal routed, calls]
  cases answer : IToken.answer env token.text with
  | error exception =>
      have silent : ¬ ∃ response,
          ((mainServer docRoot).handleRequest env
            (dataRequest version keepAlive before token after)).result =
              .ok response := by
        rw [WebServer.handleRequest_returns_iff_handler legal routed,
          getDataHandler_returns_iff, found, answer]
        exact fun returns => returns ⟨rfl, exception, rfl⟩
      constructor
      · rintro ⟨response, returned, -⟩
        exact absurd ⟨response, returned⟩ silent
      · intro same
        cases same
  | ok result =>
      have returned := WebServer.handleRequest_answered legal routed
        (answered result answer)
      rw [returned]
      cases result with
      | true => exact iff_of_true ⟨_, rfl, rfl⟩ rfl
      | false =>
          refine iff_of_false ?_ (by simp)
          rintro ⟨response, same, body⟩
          cases same
          have pages : Body.string GetDataHandler.errorBody ≠
              .string GetDataHandler.successBody := by decide
          exact pages body

def sampleToken : Token where
  header := ⟨"eyJh".toList, by decide, List.all_eq_true.mp rfl⟩
  payload := ⟨"c2Vj-_0".toList, by decide, List.all_eq_true.mp rfl⟩
  signature := ⟨"x".toList, by decide, List.all_eq_true.mp rfl⟩

def sampleParam : QueryParam where
  key := "page?".toList
  value := "a=b".toList
  key_ne_jwt := by decide
  key_no_equals := by decide
  key_no_ampersand := by decide
  value_no_ampersand := by decide
  dotless := by decide

def acceptingService : Environment :=
  { withoutTokenService with verify := fun _ => .ok true }

theorem mainServer_verifies_token_sample :
    ((mainServer "/www".toList).handleRequest acceptingService
        (dataRequest 11 true [sampleParam] sampleToken [sampleParam])).calls =
        [.verify "eyJh.c2Vj-_0.x".toList] ∧
      ∃ response,
        ((mainServer "/www".toList).handleRequest acceptingService
            (dataRequest 11 true [sampleParam] sampleToken
              [sampleParam])).result = .ok response ∧
          response.body = .string GetDataHandler.successBody := by
  have verified := mainServer_verifies_token "/www".toList acceptingService
    11 true [sampleParam] sampleToken [sampleParam]
  exact ⟨verified.2.2.1, verified.2.2.2.mpr rfl⟩

end KosCeExtra.Web
