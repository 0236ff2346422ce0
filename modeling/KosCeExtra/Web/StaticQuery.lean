import KosCeExtra.Web.StaticFiles

/-!
# Static content and the query of a target

The server strips the query before it looks for a handler, but hands the whole
target on, and the handler of static files takes the query for a part of the
file name.  So a target with a query is looked up under another name than the one
without it, unless a NUL in front of the query hides it from the file system, and
stands for the same content only where the file system makes no difference between
the two names.
-/

namespace KosCeExtra.Web

open AllRequestHandler (cStr filePath getMimeType)

/-- The file that an access has opened. -/
def accessFile {File : Type} (file : File) : FileAccess → Option File
  | .opened _ => some file
  | .noSuchFile => none
  | .failed _ => none

/-- The file that a call has opened, if any.  Links give a file several names, so
`fileAt` says which file a name stands for. -/
def openedBy {File : Type} (fileAt : Text → File) (env : Environment) :
    Call → Option File
  | .openFile name => accessFile (fileAt name) (env.openFile name)
  | .generate => none
  | .verify _ => none

/-- Two requests open the same file, or both none, and come back with the same status
and content type. -/
def SameContent {File : Type} (fileAt : Text → File) (server : WebServer)
    (env : Environment) (first second : Request) : Prop :=
  (server.handleRequest env first).calls.filterMap (openedBy fileAt env) =
      (server.handleRequest env second).calls.filterMap (openedBy fileAt env) ∧
    ∃ one other, (server.handleRequest env first).result = .ok one ∧
      (server.handleRequest env second).result = .ok other ∧
      one.status = other.status ∧ one.contentType = other.contentType

/-! ## What the static handler answers -/

def accessStatus : FileAccess → Status
  | .opened _ => .ok
  | .noSuchFile => .notFound
  | .failed _ => .internalServerError

def accessType (path : Text) : FileAccess → Text
  | .opened _ => getMimeType path
  | .noSuchFile => "text/html".toList
  | .failed _ => "text/html".toList

private theorem handleGet_answers (docRoot : Text) (env : Environment) {req : Request}
    (isGet : req.method = .get) :
    ((allRequestHandler docRoot).handleRequest env req).calls =
        [.openFile (cStr (filePath docRoot req.target))] ∧
      ∃ response,
        ((allRequestHandler docRoot).handleRequest env req).result =
            .ok (some response) ∧
          response.status =
            accessStatus (env.openFile (cStr (filePath docRoot req.target))) ∧
          response.contentType = accessType (filePath docRoot req.target)
            (env.openFile (cStr (filePath docRoot req.target))) := by
  rw [allRequestHandler, HttpUriHandler.handleRequest_single, if_pos isGet,
    AllRequestHandler.handleGet, if_neg (not_not.mpr isGet),
    Traced.bind_of_ok (Traced.result_call _ _), Traced.calls_call]
  cases env.openFile (cStr (filePath docRoot req.target)) with
  | opened content => exact ⟨rfl, _, rfl, rfl, rfl⟩
  | noSuchFile => exact ⟨rfl, _, rfl, rfl, rfl⟩
  | failed message => exact ⟨rfl, _, rfl, rfl, rfl⟩

/-- A legal `GET` that is routed to the handler of static files. -/
structure GetsStatic (server : WebServer) (docRoot : Text) (req : Request) :
    Prop where
  isGet : req.method = .get
  legal : ¬ IllegalTarget req.target
  routed : server.route (uriOf req.target) = some (allRequestHandler docRoot)

theorem handleRequest_static {server : WebServer} {docRoot : Text}
    (env : Environment) {req : Request}
    (gets : GetsStatic server docRoot req) :
    (server.handleRequest env req).calls =
        [.openFile (cStr (filePath docRoot req.target))] ∧
      ∃ response, (server.handleRequest env req).result = .ok response ∧
        response.status =
          accessStatus (env.openFile (cStr (filePath docRoot req.target))) ∧
        response.contentType = accessType (filePath docRoot req.target)
          (env.openFile (cStr (filePath docRoot req.target))) := by
  obtain ⟨calls, response, answered, status, type⟩ :=
    handleGet_answers docRoot env gets.isGet
  refine ⟨?_, response, ?_, status, type⟩
  · rw [WebServer.handleRequest_calls gets.legal gets.routed, calls]
  · exact WebServer.handleRequest_answered gets.legal gets.routed answered

/-- Under both paths there is no file, or one that cannot be read, or one and the same
file, and the paths do not differ in its type. -/
def StandForOne {File : Type} (fileAt : Text → File) (env : Environment)
    (path other : Text) : Prop :=
  match env.openFile (cStr path), env.openFile (cStr other) with
  | .noSuchFile, .noSuchFile => True
  | .failed _, .failed _ => True
  | .opened _, .opened _ =>
      fileAt (cStr path) = fileAt (cStr other) ∧
        getMimeType path = getMimeType other
  | _, _ => False

section Links

variable {File : Type} {fileAt : Text → File} {env : Environment}

private theorem openFile_filterMap_iff {name other : Text} :
    [Call.openFile name].filterMap (openedBy fileAt env) =
        [Call.openFile other].filterMap (openedBy fileAt env) ↔
      accessFile (fileAt name) (env.openFile name) =
        accessFile (fileAt other) (env.openFile other) := by
  simp only [List.filterMap_cons, List.filterMap_nil, openedBy]
  cases accessFile (fileAt name) (env.openFile name) with
  | none =>
      cases accessFile (fileAt other) (env.openFile other) with
      | none => simp
      | some otherFile => simp
  | some file =>
      cases accessFile (fileAt other) (env.openFile other) with
      | none => simp
      | some otherFile => simp

private theorem standForOne_iff {path other : Text} :
    StandForOne fileAt env path other ↔
      accessFile (fileAt (cStr path)) (env.openFile (cStr path)) =
          accessFile (fileAt (cStr other)) (env.openFile (cStr other)) ∧
        accessStatus (env.openFile (cStr path)) =
          accessStatus (env.openFile (cStr other)) ∧
        accessType path (env.openFile (cStr path)) =
          accessType other (env.openFile (cStr other)) := by
  unfold StandForOne
  cases env.openFile (cStr path) with
  | opened content =>
      cases env.openFile (cStr other) with
      | opened otherContent =>
          rw [accessFile, accessFile, Option.some.injEq]
          exact and_congr_right fun _ => (and_iff_right rfl).symm
      | noSuchFile => simp [accessFile]
      | failed message => simp [accessFile]
  | noSuchFile =>
      cases env.openFile (cStr other) with
      | opened otherContent => simp [accessFile]
      | noSuchFile => exact iff_of_true trivial ⟨rfl, rfl, rfl⟩
      | failed message => simp [accessStatus]
  | failed message =>
      cases env.openFile (cStr other) with
      | opened otherContent => simp [accessFile]
      | noSuchFile => simp [accessStatus]
      | failed otherMessage => exact iff_of_true trivial ⟨rfl, rfl, rfl⟩

/-- Two such requests stand for the same content if and only if their paths do. -/
theorem sameContent_static_iff {server : WebServer} {docRoot : Text}
    {first second : Request} (firstGets : GetsStatic server docRoot first)
    (secondGets : GetsStatic server docRoot second) :
    SameContent fileAt server env first second ↔
      StandForOne fileAt env (filePath docRoot first.target)
        (filePath docRoot second.target) := by
  obtain ⟨firstCalls, one, firstResult, firstStatus, firstType⟩ :=
    handleRequest_static env firstGets
  obtain ⟨secondCalls, other, secondResult, secondStatus, secondType⟩ :=
    handleRequest_static env secondGets
  rw [standForOne_iff, SameContent, firstCalls, secondCalls, openFile_filterMap_iff,
    ← firstStatus, ← secondStatus, ← firstType, ← secondType]
  apply and_congr_right
  intro _
  constructor
  · intro answered
    obtain ⟨one', other', returned, returned', same⟩ := answered
    cases firstResult.symm.trans returned
    cases secondResult.symm.trans returned'
    exact same
  · intro same
    exact ⟨one, other, firstResult, secondResult, same⟩

end Links

/-! ## The query in the file name -/

/-- What is put behind a target to complete it does not start a query. -/
theorem completed_eq (target : Text) :
    ∃ suffix, completed target = target ++ suffix ∧
      cStr suffix = suffix ∧ suffix.head? ≠ some '?' := by
  unfold completed
  by_cases slash : target.getLast? = some '/'
  · rw [if_pos slash]
    exact ⟨_, rfl, by decide, by decide⟩
  · rw [if_neg slash]
    exact ⟨[], (List.append_nil target).symm, rfl, by decide⟩

private theorem mem_docRoot_iff {docRoot base : Text}
    (root : docRoot = base ∨ docRoot = base ++ ['/']) :
    '\x00' ∈ docRoot ↔ '\x00' ∈ base := by
  rcases root with rfl | rfl
  · rfl
  · simp

/-- The file system sees the query, unless a NUL comes before it. -/
theorem cStr_filePath_query_iff (docRoot : Text) {path : Text}
    (nonempty : path ≠ []) (query : Text) :
    cStr (filePath docRoot path) =
        cStr (filePath docRoot (path ++ '?' :: query)) ↔
      '\x00' ∈ docRoot ∨ '\x00' ∈ path := by
  obtain ⟨base, root, paths⟩ := filePath_eq docRoot
  obtain ⟨suffix, whole, free, plain⟩ := completed_eq path
  obtain ⟨tail, marked⟩ : ∃ tail, completed ('?' :: query) = '?' :: tail := by
    obtain ⟨more, extended, -⟩ := completed_eq ('?' :: query)
    exact ⟨query ++ more, extended⟩
  have withQuery : completed (path ++ '?' :: query) = path ++ '?' :: tail := by
    rw [completed_append path (List.cons_ne_nil _ _), marked]
  rw [paths path nonempty, paths _ (by simp), whole, withQuery,
    ← List.append_assoc, ← List.append_assoc, mem_docRoot_iff root,
    ← List.mem_append]
  by_cases nul : '\x00' ∈ base ++ path
  · rw [cStr_append_of_nul nul, cStr_append_of_nul nul]
    exact iff_of_true rfl nul
  · rw [cStr_append_of_free nul, cStr_append_of_free nul, free]
    refine iff_of_false ?_ nul
    intro same
    have suffixes : suffix = '?' :: cStr tail := List.append_cancel_left same
    apply plain
    rw [suffixes]
    rfl

private theorem uriOf_query {path : Text} (noMark : '?' ∉ path) (query : Text) :
    uriOf (path ++ '?' :: query) = path := by
  rw [uriOf, takeWhile_bne_append noMark]
  simp

private theorem uriOf_eq_self {path : Text} (noMark : '?' ∉ path) :
    uriOf path = path :=
  takeWhile_bne_eq_self noMark

private theorem query_legal {path query : Text} (legal : ¬ IllegalTarget path)
    (dotless : ¬ dotDot <:+: query) :
    ¬ IllegalTarget (path ++ '?' :: query) := by
  obtain ⟨nonempty, absolute, pathDotless⟩ := by
    simpa only [IllegalTarget, not_or, not_not] using legal
  intro illegal
  rcases illegal with empty | relative | inside
  · simp at empty
  · rw [List.head?_append_of_ne_nil _ nonempty] at relative
    exact relative absolute
  · rcases infix_append_separator (by decide) inside with left | right
    · exact pathDotless left
    · exact dotless right

/-- A target with a query stands for the content that its path stands for if and
only if the file system makes no difference between the names of both: there is
nothing under either, or nothing that can be read, or the same file, which the names
give the same type. -/
theorem query_ignored_iff {File : Type} (fileAt : Text → File) (server : WebServer)
    (docRoot : Text) (env : Environment) (first second : Request)
    (path query : Text) (firstGet : first.method = .get)
    (secondGet : second.method = .get) (firstTarget : first.target = path)
    (secondTarget : second.target = path ++ '?' :: query)
    (noMark : '?' ∉ path) (legal : ¬ IllegalTarget path)
    (dotless : ¬ dotDot <:+: query)
    (routed : server.route path = some (allRequestHandler docRoot)) :
    SameContent fileAt server env first second ↔
      StandForOne fileAt env (filePath docRoot path)
        (filePath docRoot (path ++ '?' :: query)) := by
  subst firstTarget
  have firstGets : GetsStatic server docRoot first := by
    refine ⟨firstGet, legal, ?_⟩
    rw [uriOf_eq_self noMark]
    exact routed
  have secondGets : GetsStatic server docRoot second := by
    refine ⟨secondGet, ?_, ?_⟩
    · rw [secondTarget]
      exact query_legal legal dotless
    · rw [secondTarget, uriOf_query noMark]
      exact routed
  rw [sameContent_static_iff firstGets secondGets, secondTarget]

def getOf (target : Text) : Request where
  method := .get
  target := target
  version := 11
  keepAlive := true

/-- Where there is no file under either name, the query makes no difference. -/
theorem query_ignored_without_file :
    SameContent id (mainServer "/www".toList) withoutTokenService
      (getOf "/nope".toList) (getOf "/nope?x".toList) := by
  have routed : (mainServer "/www".toList).route "/nope".toList =
      some (allRequestHandler "/www".toList) :=
    mainServer_route_default _ (by decide) (by decide)
  apply (query_ignored_iff id _ "/www".toList withoutTokenService _ _
    "/nope".toList "x".toList rfl rfl rfl rfl (by decide) (by decide)
    (by decide) routed).mpr
  trivial

/-- Where every file has one name only, two names that can both be read stand for one
file if and only if a NUL hides the query from the file system. -/
theorem standForOne_query_iff {File : Type} {fileAt : Text → File}
    (distinct : Function.Injective fileAt) (docRoot : Text) (env : Environment)
    {path : Text} (nonempty : path ≠ []) (query : Text) {content other : Text}
    (reads : env.openFile (cStr (filePath docRoot path)) = .opened content)
    (readsOther : env.openFile (cStr (filePath docRoot (path ++ '?' :: query))) =
      .opened other) :
    StandForOne fileAt env (filePath docRoot path)
        (filePath docRoot (path ++ '?' :: query)) ↔
      ('\x00' ∈ docRoot ∨ '\x00' ∈ path) ∧
        getMimeType (filePath docRoot path) =
          getMimeType (filePath docRoot (path ++ '?' :: query)) := by
  rw [StandForOne, reads, readsOther, distinct.eq_iff,
    cStr_filePath_query_iff docRoot nonempty query]

/-- A site with a front page. -/
def frontPage : Environment :=
  { withoutTokenService with
    openFile := fun path =>
      if path = "/www/index.html".toList then .opened "Hello".toList
      else .noSuchFile }

/-- The front page is not found any more with a query behind it. -/
theorem query_misses_front_page :
    (∃ response, ((mainServer "/www".toList).handleRequest frontPage
        (getOf "/".toList)).result = .ok response ∧ response.status = .ok) ∧
      (∃ response, ((mainServer "/www".toList).handleRequest frontPage
          (getOf "/?v=1".toList)).result = .ok response ∧
        response.status = .notFound) ∧
      ¬ SameContent id (mainServer "/www".toList) frontPage (getOf "/".toList)
        (getOf "/?v=1".toList) := by
  have routed : (mainServer "/www".toList).route "/".toList =
      some (allRequestHandler "/www".toList) :=
    mainServer_route_default _ (by decide) (by decide)
  have pageGets : GetsStatic (mainServer "/www".toList) "/www".toList
      (getOf "/".toList) := ⟨rfl, by decide, routed⟩
  have queryGets : GetsStatic (mainServer "/www".toList) "/www".toList
      (getOf "/?v=1".toList) := ⟨rfl, by decide, routed⟩
  obtain ⟨-, page, found, status, -⟩ := handleRequest_static frontPage pageGets
  obtain ⟨-, missing, notFound, status', -⟩ :=
    handleRequest_static frontPage queryGets
  refine ⟨⟨page, found, status⟩, ⟨missing, notFound, status'⟩, ?_⟩
  intro ignored
  obtain ⟨-, one, other, returned, returned', same, -⟩ := ignored
  cases found.symm.trans returned
  cases notFound.symm.trans returned'
  rw [status, status'] at same
  revert same
  decide

end KosCeExtra.Web
