import KosCeExtra.Grpc.CommandLineArg
import KosCeExtra.Library.Dialogue

/-!
# The gRPC client and server

The `main` functions of `examples/grpc` as they are built for KasperskyOS, with all that
they do to the outside: the lines that they print, the network that they wait for, the
files that they read, and the calls to the gRPC library.  A `std::runtime_error` ends the
body of `main` and is caught there.  Nothing tests the pointer that `BuildAndStart`
returns; where it is null, `RunServer` goes on with a call of which nothing is known.
`Wait` returns only behind a shutdown, and nothing in the programs makes one.
-/

namespace KosCeExtra.Grpc

open Dialogue

inductive ExitStatus where
  | success
  | failure
  deriving DecidableEq, Repr

/-- `ReadFile` for a file that is not there. -/
def fileNotFound (filename : Text) : Text :=
  "File not found: ".toList ++ filename

def showBool (value : Bool) : Text :=
  if value then "true".toList else "false".toList

/-! ## The client -/

namespace Client

inductive Credentials where
  | insecure
  | ssl (pemRootCerts targetNameOverride : Text)
  deriving DecidableEq, Repr

/-- The status of a call, with the message of the reply. -/
inductive RpcResult where
  | ok (message : Text)
  | failed (errorCode : Nat) (errorMessage : Text)
  deriving DecidableEq, Repr

inductive Call where
  | print (line : Text)
  | waitForIface
  | readFile (filename : Text)
  | createChannel (target : Text) (credentials : Credentials)
  | sayHello (name : Text)
  deriving DecidableEq, Repr

@[reducible] def Reply : Call → Type
  | .print _ => Unit
  | .waitForIface => Bool
  | .readFile _ => Option Text
  | .createChannel _ _ => Unit
  | .sayHello _ => RpcResult

abbrev Program (α : Type) := ExceptT Text (Dialogue Call Reply) α

def call (made : Call) : Program (Reply made) :=
  liftM (ask made : Dialogue Call Reply _)

def tagged (line : Text) : Text :=
  "[GreeterClient] ".toList ++ line

def caFile : Text := "/cert/ca.pem".toList
def testName : Text := "foo.test.google.fr".toList
def user : Text := "KasperskyOS world".toList
def requestCount : Nat := 20000

def readFile (filename : Text) : Program Text := do
  match ← call (.readFile filename) with
  | some content => pure content
  | none => throw (fileNotFound filename)

def createChannel (target : Text) (isSecure : Bool) : Program Unit :=
  if isSecure = true then do
    let cacert ← readFile caFile
    call (.createChannel target (.ssl cacert testName))
  else
    call (.createChannel target .insecure)

/-- What `SayHello` of the client returns. -/
def presented : RpcResult → Text
  | .ok message => message
  | .failed errorCode errorMessage =>
      "RPC failed (".toList ++ (toString errorCode).toList ++ ") ".toList ++
        errorMessage

def sendLine (index : Nat) : Text :=
  tagged ("send request ".toList ++ (toString (index + 1)).toList)

def receivedLine (reply : Text) : Text :=
  tagged ("received: ".toList ++ reply)

/-- The loop of `main`, from the request with that index on. -/
def sendRequests (index : Nat) : Nat → Program Unit
  | 0 => pure ()
  | count + 1 => do
      let _ ← call (.print (sendLine index))
      let result ← call (.sayHello user)
      let _ ← call (.print (receivedLine (presented result)))
      sendRequests (index + 1) count

/-- The body of `main` behind the parsing of the arguments. -/
def greet (options : ClientOptions) : Program ExitStatus := do
  let _ ← call (.print (tagged "waiting for network...".toList))
  let up ← call .waitForIface
  if up = false then
    let _ ← call (.print (tagged "Error: Wait for network failed!".toList))
    pure .failure
  else
    let _ ← call (.print (tagged ("target: ".toList ++ options.targetEndpoint)))
    let _ ← call (.print (tagged ("using secure connection: ".toList ++
      showBool options.useSecureConnection)))
    createChannel options.targetEndpoint options.useSecureConnection
    sendRequests 0 requestCount
    pure .success

/-- The body of the `try` block. -/
def body (defaultEndpoint : Text) (args : List Text) : Program ExitStatus :=
  match parseClientArgs defaultEndpoint args with
  | (.error message, _) => throw message
  | (.ok (), options) => greet options

def main (defaultEndpoint : Text) (args : List Text) :
    Dialogue Call Reply ExitStatus := do
  let _ ← ask (.print (tagged "starting...".toList))
  match ← (body defaultEndpoint args).run with
  | .ok status => pure status
  | .error what =>
      let _ ← ask (.print (tagged ("Error: ".toList ++ what)))
      pure .failure

end Client

/-! ## The server -/

namespace Server

inductive Credentials where
  | insecure
  | ssl (pemRootCerts privateKey certChain : Text)
  deriving DecidableEq, Repr

/-- A call; `buildAndStart` says where the server is to listen. -/
inductive Call where
  | print (line : Text)
  | waitForIface
  | readFile (filename : Text)
  | buildAndStart (address : Text) (credentials : Credentials)
  | wait
  deriving DecidableEq, Repr

/-- A server that could not be started is a null pointer, and `Wait` may not return. -/
@[reducible] def Reply : Call → Type
  | .print _ => Unit
  | .waitForIface => Bool
  | .readFile _ => Option Text
  | .buildAndStart _ _ => Bool
  | .wait => Option Unit

inductive Interruption where
  | runtimeError (what : Text)
  /-- a call through a null pointer -/
  | undefined
  /-- `Wait` has not returned -/
  | serving
  deriving DecidableEq, Repr

/-- How far `main` comes. -/
inductive Ending where
  | exited (status : ExitStatus)
  /-- nothing is known of the rest of the run -/
  | undefined
  | serving
  deriving DecidableEq, Repr

abbrev Program (α : Type) := ExceptT Interruption (Dialogue Call Reply) α

def call (made : Call) : Program (Reply made) :=
  liftM (ask made : Dialogue Call Reply _)

def tagged (line : Text) : Text :=
  "[GreeterServer] ".toList ++ line

def caFile : Text := "/cert/ca.pem".toList
def certFile : Text := "/cert/server1.pem".toList
def keyFile : Text := "/cert/server1.key".toList
def serverAddress : Text := "0.0.0.0:50051".toList

/-- The reply of `GreeterServiceImpl::SayHello`. -/
def sayHello (name : Text) : Text :=
  "KOS-Hello ".toList ++ name

def readFile (filename : Text) : Program Text := do
  match ← call (.readFile filename) with
  | some content => pure content
  | none => throw (.runtimeError (fileNotFound filename))

def getSecureCredentials : Program Credentials := do
  let serverCA ← readFile caFile
  let servercert ← readFile certFile
  let serverkey ← readFile keyFile
  pure (.ssl serverCA serverkey servercert)

/-- The credentials that `main` chooses. -/
def chosenCredentials (useSecureConnection : Bool) : Program Credentials :=
  if useSecureConnection = true then getSecureCredentials else pure .insecure

def listeningLine : Text :=
  tagged ("listening on ".toList ++ serverAddress)

def runServer (credentials : Credentials) : Program Unit := do
  let started ← call (.buildAndStart serverAddress credentials)
  let _ ← call (.print listeningLine)
  if started = false then
    throw .undefined
  else
    match ← call .wait with
    | some _ => pure ()
    | none => throw .serving

/-- The body of `main` behind the parsing of the arguments. -/
def serve (useSecureConnection : Bool) : Program ExitStatus := do
  let _ ← call (.print (tagged "waiting for network...".toList))
  let up ← call .waitForIface
  if up = false then
    let _ ← call (.print (tagged "Error: Wait for network failed!".toList))
    pure .failure
  else
    let credentials ← chosenCredentials useSecureConnection
    let _ ← call (.print (tagged ("using secure connection: ".toList ++
      showBool useSecureConnection)))
    runServer credentials
    pure .success

def body (args : List Text) : Program ExitStatus :=
  match parseServerArgs args with
  | (.error message, _) => throw (.runtimeError message)
  | (.ok (), useSecureConnection) => serve useSecureConnection

def main (args : List Text) : Dialogue Call Reply Ending := do
  let _ ← ask (.print (tagged "starting...".toList))
  match ← (body args).run with
  | .ok status => pure (.exited status)
  | .error (.runtimeError what) =>
      let _ ← ask (.print (tagged ("Error: ".toList ++ what)))
      pure (.exited .failure)
  | .error .undefined => pure .undefined
  | .error .serving => pure .serving

end Server

end KosCeExtra.Grpc
