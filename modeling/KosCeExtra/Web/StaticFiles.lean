import KosCeExtra.Library.Separated
import KosCeExtra.Web.Server

/-!
# Static files stay under the document root

The path of a static file is the document root, less one trailing slash, with
the target behind it.  The server has checked that the target starts with a
slash and holds no two dots in a row, so the components of the root are left
as they are and no component behind them climbs out again.
-/

namespace KosCeExtra.Web

open AllRequestHandler (cStr concatPath filePath)

/-- The components of a path, without the empty ones and the single dots. -/
def components (path : Text) : List Text :=
  (path.splitOn '/').filter (fun piece => piece ≠ [] ∧ piece ≠ ['.'])

theorem components_append_slash (before after : Text) :
    components (before ++ '/' :: after) =
      components before ++ components after := by
  rw [components, List.splitOn_append_cons_self, List.filter_append]
  rfl

private theorem components_trailing_slash (path : Text) :
    components (path ++ ['/']) = components path := by
  rw [components_append_slash]
  exact List.append_nil _

private theorem infix_of_mem_components {path piece : Text}
    (member : piece ∈ components path) : piece <:+: path :=
  infix_of_mem_splitOn (List.mem_of_mem_filter member)

/-! ## What the file system sees of a path -/

private theorem cStr_inside (text : Text) : cStr text <:+: text :=
  (List.takeWhile_prefix _).isInfix

theorem cStr_eq_self {text : Text} (free : '\x00' ∉ text) :
    cStr text = text :=
  takeWhile_bne_eq_self free

theorem cStr_append_of_free {before : Text} (free : '\x00' ∉ before)
    (after : Text) : cStr (before ++ after) = before ++ cStr after :=
  takeWhile_bne_append free after

theorem cStr_append_of_nul {before : Text} (holds : '\x00' ∈ before)
    (after : Text) : cStr (before ++ after) = cStr before := by
  have shorter : (cStr before).length ≠ before.length := by
    intro same
    have whole : cStr before = before :=
      (List.takeWhile_prefix _).eq_of_length same
    have passes := List.takeWhile_eq_self_iff.mp whole _ holds
    exact absurd passes (by decide)
  exact List.takeWhile_append.trans (if_neg shorter)

/-! ## The path of a static file -/

/-- The target as `handleGet` completes it. -/
def completed (target : Text) : Text :=
  if target.getLast? = some '/' then target ++ "index.html".toList else target

theorem completed_append (base : Text) {target : Text}
    (nonempty : target ≠ []) :
    completed (base ++ target) = base ++ completed target := by
  have last : (base ++ target).getLast? = target.getLast? :=
    List.getLast?_append_of_ne_nil base nonempty
  unfold completed
  rw [last]
  by_cases slash : target.getLast? = some '/'
  · rw [if_pos slash, if_pos slash, List.append_assoc]
  · rw [if_neg slash, if_neg slash]

private theorem concatPath_eq (docRoot : Text) :
    ∃ base, (docRoot = base ∨ docRoot = base ++ ['/']) ∧
      ∀ target, concatPath docRoot target = base ++ target := by
  by_cases empty : docRoot = []
  · refine ⟨[], .inl empty, fun target => ?_⟩
    rw [concatPath, if_pos empty]
    rfl
  by_cases slash : docRoot.getLast? = some '/'
  · refine ⟨docRoot.dropLast, .inr ?_, fun target => ?_⟩
    · exact (List.dropLast_append_getLast? '/' slash).symm
    · rw [concatPath, if_neg empty, if_pos slash]
  · refine ⟨docRoot, .inl rfl, fun target => ?_⟩
    rw [concatPath, if_neg empty, if_neg slash]

theorem filePath_eq (docRoot : Text) :
    ∃ base, (docRoot = base ∨ docRoot = base ++ ['/']) ∧
      ∀ target, target ≠ [] →
        filePath docRoot target = base ++ completed target := by
  obtain ⟨base, root, path⟩ := concatPath_eq docRoot
  refine ⟨base, root, fun target nonempty => ?_⟩
  rw [← completed_append base nonempty, ← path]
  rfl

/-- Completing a legal target adds no pair of dots. -/
theorem completed_dotless {target : Text} (dotless : ¬ dotDot <:+: target) :
    ¬ dotDot <:+: completed target := by
  unfold completed
  split
  next slash =>
    obtain ⟨before, rfl⟩ : ∃ before, target = before ++ ['/'] :=
      ⟨_, (List.dropLast_append_getLast? '/' slash).symm⟩
    rw [List.append_assoc, List.singleton_append]
    intro inside
    rcases infix_append_separator (by decide) inside with left | right
    · exact dotless (left.trans List.infix_append_left)
    · exact absurd right (by decide)
  next => exact dotless

private theorem completed_slash {target : Text} (absolute : target.head? = some '/') :
    ∃ tail, completed target = '/' :: tail := by
  cases target with
  | nil => cases absolute
  | cons head tail =>
      obtain rfl : head = '/' := by simpa using absolute
      unfold completed
      split
      · exact ⟨_, List.cons_append⟩
      · exact ⟨tail, rfl⟩

/-- What the file system opens for a legal target lies under the root. -/
theorem filePath_confined (docRoot : Text) {target : Text}
    (legal : ¬ IllegalTarget target) :
    ∃ extra, components (cStr (filePath docRoot target)) =
        components (cStr docRoot) ++ extra ∧
      dotDot ∉ extra := by
  obtain ⟨nonempty, absolute, dotless⟩ := by
    simpa only [IllegalTarget, not_or, not_not] using legal
  obtain ⟨base, root, path⟩ := filePath_eq docRoot
  obtain ⟨tail, slash⟩ := completed_slash absolute
  have clear : ¬ dotDot <:+: tail := fun inside =>
    completed_dotless dotless
      (slash ▸ List.infix_cons_iff.mpr (.inr inside))
  rw [path target nonempty, slash]
  by_cases nul : '\x00' ∈ base
  · refine ⟨[], ?_, List.not_mem_nil⟩
    rw [cStr_append_of_nul nul, List.append_nil]
    rcases root with rfl | rfl
    · rfl
    · rw [cStr_append_of_nul nul]
  · have opened : cStr (base ++ '/' :: tail) = base ++ '/' :: cStr tail := by
      rw [cStr_append_of_free nul]
      rfl
    have rooted : components (cStr docRoot) = components base := by
      rcases root with rfl | rfl
      · rw [cStr_eq_self nul]
      · rw [cStr_append_of_free nul]
        exact components_trailing_slash base
    refine ⟨components (cStr tail), ?_, ?_⟩
    · rw [opened, rooted, components_append_slash]
    · intro member
      exact clear ((infix_of_mem_components member).trans (cStr_inside tail))

/-! ## Through the server -/

private theorem handleGet_opens {docRoot path : Text} {env : Environment}
    {req : Request}
    (opened : .openFile path ∈
      ((allRequestHandler docRoot).handleRequest env req).calls) :
    path = cStr (filePath docRoot req.target) := by
  rw [allRequestHandler, HttpUriHandler.handleRequest_single] at opened
  by_cases isGet : req.method = .get
  · rw [if_pos isGet, AllRequestHandler.handleGet,
      if_neg (not_not.mpr isGet), Traced.bind_of_ok (Traced.result_call _ _),
      Traced.calls_call] at opened
    rcases List.mem_append.mp opened with first | later
    · exact Call.openFile.inj (List.mem_singleton.mp first)
    · revert later
      cases env.openFile _ <;> simp
  · rw [if_neg isGet] at opened
    cases opened

theorem handleRequest_opens {server : WebServer} {docRoot path : Text}
    {env : Environment} {req : Request}
    (routed : server.route (uriOf req.target) = some (allRequestHandler docRoot))
    (opened : .openFile path ∈ (server.handleRequest env req).calls) :
    ¬ IllegalTarget req.target ∧ path = cStr (filePath docRoot req.target) := by
  by_cases illegal : IllegalTarget req.target
  · rw [WebServer.handleRequest_illegal illegal] at opened
    cases opened
  · rw [WebServer.handleRequest_calls illegal routed] at opened
    exact ⟨illegal, handleGet_opens opened⟩

/-- A file opened for a request that the server hands to the static handler
lies under that handler's document root.  A root with a NUL in it stands for
the directory the file system takes it for. -/
theorem handleRequest_confined (server : WebServer) (docRoot : Text)
    (env : Environment) (req : Request) (path : Text)
    (routed : server.route (uriOf req.target) =
      some (allRequestHandler docRoot))
    (opened : .openFile path ∈ (server.handleRequest env req).calls) :
    ∃ extra, components path = components (cStr docRoot) ++ extra ∧
      dotDot ∉ extra := by
  obtain ⟨legal, rfl⟩ := handleRequest_opens routed opened
  exact filePath_confined docRoot legal

/-- Under a root without a NUL, the components of the opened path are those of the root
with others behind them. -/
theorem handleRequest_confined_of_plain {server : WebServer} {docRoot : Text}
    {env : Environment} {req : Request} {path : Text} (plain : '\x00' ∉ docRoot)
    (routed : server.route (uriOf req.target) = some (allRequestHandler docRoot))
    (opened : .openFile path ∈ (server.handleRequest env req).calls) :
    ∃ extra, components path = components docRoot ++ extra ∧ dotDot ∉ extra := by
  obtain ⟨legal, rfl⟩ := handleRequest_opens routed opened
  obtain ⟨extra, split, dotless⟩ := filePath_confined docRoot legal
  rw [cStr_eq_self plain] at split
  exact ⟨extra, split, dotless⟩

def cssRequest : Request where
  method := .get
  target := "/css/./".toList
  version := 11
  keepAlive := true

theorem cssRequest_confined :
    .openFile "/www/css/./index.html".toList ∈
        ((mainServer "/www/".toList).handleRequest withoutTokenService
          cssRequest).calls ∧
      ∃ extra, components "/www/css/./index.html".toList =
          components (cStr "/www/".toList) ++ extra ∧
        dotDot ∉ extra := by
  have routed : (mainServer "/www/".toList).route (uriOf cssRequest.target) =
      some (allRequestHandler "/www/".toList) :=
    mainServer_route_default _ (by decide) (by decide)
  have opened : .openFile "/www/css/./index.html".toList ∈
      ((mainServer "/www/".toList).handleRequest withoutTokenService
        cssRequest).calls := by
    rw [WebServer.handleRequest_calls (by decide) routed]
    decide
  exact ⟨opened, handleRequest_confined _ _ _ _ _ routed opened⟩

end KosCeExtra.Web
