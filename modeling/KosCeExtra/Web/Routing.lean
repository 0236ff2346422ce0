import KosCeExtra.Library.KeyedHistory
import KosCeExtra.Web.Server

/-!
# Routing by the history of registrations

`SetHandler` and `RemoveHandler` choose by their URI between the map of the
handlers and the slot of the default one.  Seen through `slot` the two are one
store with the empty URI among its keys, and each call writes one key of it.
What a request comes to then depends only on the last call for its URI and on
the last call for the empty one.
-/

namespace KosCeExtra.Web

open KeyedHistory

inductive Registration where
  | setHandler (uri : Text) (handler : HttpUriHandler)
  | removeHandler (uri : Text)

namespace Registration

def uri : Registration → Text
  | .setHandler uri _ => uri
  | .removeHandler uri => uri

/-- The handler that a registration leaves for its URI. -/
def handler : Registration → Option HttpUriHandler
  | .setHandler _ handler => some handler
  | .removeHandler _ => none

def apply (server : WebServer) : Registration → WebServer
  | .setHandler uri handler => server.setHandler uri handler
  | .removeHandler uri => server.removeHandler uri

end Registration

/-- The server behind its constructor and a history of registrations. -/
def registered (defaultHandler : Option HttpUriHandler)
    (history : List Registration) : WebServer :=
  history.foldl Registration.apply (.ofDefaultHandler defaultHandler)

/-- The default handler after a history. -/
def defaultAfter (defaultHandler : Option HttpUriHandler)
    (history : List Registration) : Option HttpUriHandler :=
  match lastFor Registration.uri [] history with
  | some registration => registration.handler
  | none => defaultHandler

/-- The one handler that is asked, whose refusal is the end of it. -/
def answeredBy (handler : HttpUriHandler) (env : Environment) (req : Request) :
    Traced Call Exception Response := do
  match ← handler.handleRequest env req with
  | some response => pure response
  | none =>
      pure (makeErrorResponse env req .methodNotAllowed
        "Unknown HTTP-method".toList)

namespace WebServer

/-- The map and the default handler as one store. -/
def slot (server : WebServer) (uri : Text) : Option HttpUriHandler :=
  if uri = [] then server.defaultHandler else server.uriHandlers uri

/-- Both calls put what they leave into the place that their URI selects. -/
def put (server : WebServer) (uri : Text) (handler : Option HttpUriHandler) :
    WebServer :=
  if uri ≠ [] then
    { server with
      uriHandlers := Function.update server.uriHandlers uri handler }
  else
    { server with defaultHandler := handler }

private theorem apply_eq_put (server : WebServer) (registration : Registration) :
    registration.apply server =
      server.put registration.uri registration.handler := by
  cases registration with
  | setHandler uri handler => rfl
  | removeHandler uri => rfl

private theorem slot_put (server : WebServer) (uri : Text)
    (handler : Option HttpUriHandler) (wanted : Text) :
    (server.put uri handler).slot wanted =
      if uri = wanted then handler else server.slot wanted := by
  by_cases default : uri = []
  · subst default
    by_cases empty : wanted = []
    · simp [put, slot, empty]
    · simp [put, slot, empty, Ne.symm empty]
  · by_cases same : uri = wanted
    · subst same
      simp [put, slot, default]
    · simp [put, slot, default, same, Function.update_of_ne (Ne.symm same)]

/-- The slot of a URI holds what the last registration for it left. -/
theorem slot_registered (defaultHandler : Option HttpUriHandler)
    (history : List Registration) (uri : Text) :
    (registered defaultHandler history).slot uri =
      ((lastFor Registration.uri uri history).map Registration.handler).getD
        ((ofDefaultHandler defaultHandler).slot uri) := by
  have writes : ∀ (server : WebServer) (registration : Registration) wanted,
      (registration.apply server).slot wanted =
        if registration.uri = wanted then registration.handler
        else server.slot wanted := by
    intro server registration wanted
    rw [apply_eq_put, slot_put]
  exact read_foldl writes history (ofDefaultHandler defaultHandler) uri

private theorem registered_default (defaultHandler : Option HttpUriHandler)
    (history : List Registration) :
    (registered defaultHandler history).defaultHandler =
      defaultAfter defaultHandler history := by
  have slot := slot_registered defaultHandler history []
  rw [WebServer.slot, if_pos rfl] at slot
  rw [slot, defaultAfter]
  cases lastFor Registration.uri [] history with
  | none => rfl
  | some registration => rfl

private theorem registered_handler (defaultHandler : Option HttpUriHandler)
    (history : List Registration) {uri : Text} (nonempty : uri ≠ []) :
    (registered defaultHandler history).uriHandlers uri =
      (lastFor Registration.uri uri history).bind Registration.handler := by
  have slot := slot_registered defaultHandler history uri
  simp only [WebServer.slot, if_neg nonempty] at slot
  rw [slot]
  cases lastFor Registration.uri uri history with
  | none => rfl
  | some registration => rfl

/-- A request of a legal target is for the handler in the slot of its URI, or
else for the default handler. -/
theorem handleRequest_route {server : WebServer} {env : Environment}
    {req : Request} (legal : ¬ IllegalTarget req.target) :
    server.handleRequest env req =
      match server.route (uriOf req.target) with
      | some handler => answeredBy handler env req
      | none =>
          pure (makeErrorResponse env req .methodNotAllowed
            "Unknown HTTP-method".toList) := by
  rw [handleRequest, if_neg legal]
  cases server.route (uriOf req.target) with
  | none => rfl
  | some handler => rfl

end WebServer

/-- The URI of a legal target starts with its slash. -/
theorem uriOf_ne_nil {target : Text} (legal : ¬ IllegalTarget target) :
    uriOf target ≠ [] := by
  have absolute : target.head? = some '/' := by
    by_contra relative
    exact legal (.inr (.inl relative))
  cases target with
  | nil => cases absolute
  | cons head tail =>
      obtain rfl : head = '/' := by simpa using absolute
      simp [uriOf]

/-- A removed handler leaves the URI to the default one. -/
theorem route_registered (defaultHandler : Option HttpUriHandler)
    (history : List Registration) {uri : Text} (nonempty : uri ≠ []) :
    (registered defaultHandler history).route uri =
      match lastFor Registration.uri uri history with
      | some (.setHandler _ handler) => some handler
      | _ => defaultAfter defaultHandler history := by
  rw [WebServer.route, WebServer.registered_handler _ _ nonempty,
    WebServer.registered_default]
  cases lastFor Registration.uri uri history with
  | none => rfl
  | some registration =>
      cases registration with
      | setHandler uri handler => rfl
      | removeHandler uri => rfl

/-- Only the order of the registrations for one URI counts. -/
theorem handleRequest_eq_of_filter {history other : List Registration}
    (agree : ∀ uri, history.filter (fun entry => entry.uri = uri) =
      other.filter (fun entry => entry.uri = uri))
    (defaultHandler : Option HttpUriHandler) (env : Environment)
    (req : Request) :
    (registered defaultHandler history).handleRequest env req =
      (registered defaultHandler other).handleRequest env req := by
  have lasts : ∀ uri, lastFor Registration.uri uri history =
      lastFor Registration.uri uri other := fun uri =>
    lastFor_eq_of_filter (agree uri)
  by_cases illegal : IllegalTarget req.target
  · rw [WebServer.handleRequest_illegal illegal,
      WebServer.handleRequest_illegal illegal]
  · rw [WebServer.handleRequest_route illegal,
      WebServer.handleRequest_route illegal,
      route_registered _ _ (uriOf_ne_nil illegal),
      route_registered _ _ (uriOf_ne_nil illegal), defaultAfter,
      defaultAfter, lasts, lasts]

/-- What a request comes to after a history of registrations.  An illegal
target is turned away.  Otherwise the handler of the last `SetHandler` for the
URI is asked, if no `RemoveHandler` came behind it, and else the default handler
is, if there is one.  Registrations for different URIs may change places. -/
theorem handleRequest_follows_history
    (defaultHandler : Option HttpUriHandler) (history : List Registration)
    (env : Environment) (req : Request) :
    (IllegalTarget req.target →
      (registered defaultHandler history).handleRequest env req =
        pure (makeErrorResponse env req .badRequest
          "Illegal request-target".toList)) ∧
    (¬ IllegalTarget req.target →
      (∀ handler,
        lastFor Registration.uri (uriOf req.target) history =
          some (.setHandler (uriOf req.target) handler) →
        (registered defaultHandler history).handleRequest env req =
          answeredBy handler env req) ∧
      ((∀ handler,
        lastFor Registration.uri (uriOf req.target) history ≠
          some (.setHandler (uriOf req.target) handler)) →
        (registered defaultHandler history).handleRequest env req =
          match defaultAfter defaultHandler history with
          | some handler => answeredBy handler env req
          | none =>
              pure (makeErrorResponse env req .methodNotAllowed
                "Unknown HTTP-method".toList))) ∧
    ∀ other : List Registration,
      (∀ uri, history.filter (fun entry => entry.uri = uri) =
        other.filter (fun entry => entry.uri = uri)) →
      (registered defaultHandler history).handleRequest env req =
        (registered defaultHandler other).handleRequest env req := by
  refine ⟨WebServer.handleRequest_illegal, ?_, ?_⟩
  · intro legal
    rw [WebServer.handleRequest_route legal,
      route_registered _ _ (uriOf_ne_nil legal)]
    constructor
    · intro handler last
      rw [last]
    · intro notSet
      cases last : lastFor Registration.uri (uriOf req.target) history with
      | none => rfl
      | some registration =>
          cases registration with
          | setHandler uri handler =>
              have same : uri = uriOf req.target := key_of_lastFor last
              subst same
              exact absurd last (notSet handler)
          | removeHandler uri => rfl
  · intro other agree
    exact handleRequest_eq_of_filter agree defaultHandler env req

example (docRoot : Text) : mainServer docRoot = registered none
    [.setHandler [] (allRequestHandler docRoot),
      .setHandler "/gettoken".toList (getTokenHandler docRoot),
      .setHandler "/getdata".toList (getDataHandler docRoot)] := by
  rfl

end KosCeExtra.Web
