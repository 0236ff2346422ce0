import KosCeExtra.Library.Dialogue
import KosCeExtra.Rabbitmq.AmqpDump

/-!
# The AMQP publisher and consumer

The two programs of `examples/rabbitmq` with their calls to the AMQP library.  Both
make a connection in a constructor, and a constructor that throws leaves no object
whose destructor could run.  The destructor of the publisher destroys the connection;
that of the consumer closes it only.

The publisher sends its hundred messages until one is refused.  The consumer prints
what it is delivered until the library has something else to say, and this ends it
with success.  The loop of the consumer has no bound, so it is given a number of
attempts.
-/

namespace KosCeExtra.Rabbitmq

open Dialogue

inductive ExitStatus where
  | success
  | failure
  deriving DecidableEq, Repr

/-- `amqp_rpc_reply_t` -/
inductive RpcReply where
  | normal
  | none
  | libraryException (error : Int)
  | connectionClosed (code : Nat) (text : Text)
  | channelClosed (code : Nat) (text : Text)
  | serverException (method : Nat)
  deriving DecidableEq, Repr

/-- The fields of a message that the publisher sets. -/
structure Publication where
  exchange : Text
  routingKey : Text
  contentType : Text
  deliveryMode : Nat
  body : Text
  deriving DecidableEq, Repr

/-- The fields of a delivered message that the consumer prints. -/
structure Envelope where
  deliveryTag : Nat
  exchange : Text
  routingKey : Text
  contentType : Option Text
  body : List UInt8
  deriving DecidableEq, Repr

inductive Call where
  | waitForIface
  | getenv (name : Text)
  | log (line : Text)
  | print (line : Text)
  | newConnection
  | tcpSocketNew
  | socketOpen (host : Text) (port : Int)
  | login
  | channelOpen
  | getRpcReply
  | basicPublish (publication : Publication)
  | queueDeclare
  | bytesMallocDup (bytes : Text)
  | queueBind (queue exchange bindingKey : Text)
  | basicConsume (queue : Text)
  | maybeReleaseBuffers
  | consumeMessage
  | destroyEnvelope (envelope : Envelope)
  | bytesFree
  | channelClose
  | connectionClose
  | destroyConnection
  deriving DecidableEq, Repr

/-- The replies; where a pointer is returned, whether it is not null, and in the case of
`queueDeclare` the name behind it. -/
@[reducible] def Reply : Call → Type
  | .waitForIface => Bool
  | .getenv _ => Option Text
  | .newConnection => Bool
  | .tcpSocketNew => Bool
  | .socketOpen _ _ => Int
  | .login => RpcReply
  | .getRpcReply => RpcReply
  | .basicPublish _ => Int
  | .queueDeclare => Text
  | .bytesMallocDup _ => Bool
  | .consumeMessage => RpcReply × Envelope
  | _ => Unit

/-- Why a program is ended where it stands. -/
inductive Interruption where
  /-- an exception that `main` catches -/
  | exception (what : Text)
  /-- one that it does not -/
  | uncaught
  /-- a null pointer as a text -/
  | undefined
  /-- the loop has used up its attempts -/
  | attempts
  deriving DecidableEq, Repr

abbrev Program (α : Type) := ExceptT Interruption (Dialogue Call Reply) α

def call (made : Call) : Program (Reply made) :=
  liftM (ask made : Dialogue Call Reply _)

/-! ## What both programs use -/

section Errors

variable (errorString : Int → Text)

def throwOnError (x : Int) (context : Text) : Program Unit :=
  if x < 0 then
    throw (.exception (context ++ ": ".toList ++ errorString x))
  else
    pure ()

/-- What `ThrowOnAmqpError` throws. -/
def amqpError (context : Text) : RpcReply → Option Text
  | .normal => Option.none
  | .none => some (context ++ ": missing RPC reply type!".toList)
  | .libraryException error => some (context ++ ":".toList ++ errorString error)
  | .connectionClosed code text =>
      some (context ++ ": server connection error ".toList ++
        (toString code).toList ++ "h, message: ".toList ++ text)
  | .channelClosed code text =>
      some (context ++ ": server channel error ".toList ++
        (toString code).toList ++ "h, message: ".toList ++ text)
  | .serverException method =>
      some (context ++ ": unknown server error, method id 0x".toList ++
        hexField 8 method)

def throwOnAmqpError (x : RpcReply) (context : Text) : Program Unit :=
  match amqpError errorString context x with
  | some what => throw (.exception what)
  | Option.none => pure ()

/-- The constructors of `Publisher` and `Consumer`. -/
def connect (hostname : Text) (port : Int) : Program Unit := do
  let conn ← call .newConnection
  if conn = false then
    throw (.exception "Allocation error for connection object".toList)
  else
    let socket ← call .tcpSocketNew
    if socket = false then
      throw (.exception "Error creating TCP socket".toList)
    else
      let status ← call (.socketOpen hostname port)
      if status ≠ 0 then
        throw (.exception ("Error opening broker connection socket with address: ".toList
          ++ hostname ++ " port: ".toList ++ (toString port).toList))
      else
        let login ← call .login
        throwOnAmqpError errorString login "Logging in".toList
        let _ ← call .channelOpen
        let opened ← call .getRpcReply
        throwOnAmqpError errorString opened "Opening channel".toList

end Errors

/-- The destructor runs behind the body, also where an exception leaves it that is
caught further out. -/
def withDestructor (body : Program Unit) (destructor : Program Unit) :
    Program Unit := do
  match ← (liftM body.run : Program (Except Interruption Unit)) with
  | .ok _ => destructor
  | .error (.exception what) =>
      destructor
      throw (.exception what)
  | .error interruption => throw interruption

inductive StoiError where
  | invalidArgument
  | outOfRange
  deriving DecidableEq, Repr

/-- `isspace` in the C locale. -/
def isSpace (char : Char) : Bool :=
  char ∈ [' ', '\t', '\n', '\x0b', '\x0c', '\r']

/-- `std::stoi`: blanks, a sign, and as many digits as there are. -/
def stoi (text : Text) : Except StoiError Int :=
  let text := text.dropWhile isSpace
  let negative := text.head? = some '-'
  let text := if negative ∨ text.head? = some '+' then text.tail else text
  let digits := text.takeWhile Char.isDigit
  if digits = [] then
    .error .invalidArgument
  else
    let magnitude : Int := digits.foldl (fun value digit =>
      10 * value + (digit.toNat - '0'.toNat)) 0
    let value := if negative then -magnitude else magnitude
    if value < -2147483648 ∨ 2147483647 < value then .error .outOfRange
    else .ok value

def defaultPort : Int := 5672

/-- The port that the environment names. -/
def brokerPort : Program Int := do
  match ← call (.getenv "AMQP_BROKER_PORT".toList) with
  | none => throw .undefined
  | some text =>
      match stoi text with
      | .ok port => pure port
      | .error .invalidArgument =>
          let _ ← call (.log ("Failed to get AMQP broker port. Using default ".toList ++
            (toString defaultPort).toList ++ " port.".toList))
          pure defaultPort
      | .error .outOfRange => throw .uncaught

/-- The `main` of both programs, around the body of its `try` block. -/
def mainWith (body : Text → Int → Program Unit) : Program ExitStatus := do
  let up ← call .waitForIface
  if up = false then
    let _ ← call (.log "Wait for network failed!".toList)
    pure .failure
  else
    match ← call (.getenv "AMQP_BROKER_ADDRESS".toList) with
    | none =>
        let _ ← call (.log
          "Unable to get broker address from env AMQP_BROKER_ADDRESS.".toList)
        pure .failure
    | some brokerAddress =>
        let port ← brokerPort
        let _ ← call (.log ("AMQP BROKER ".toList ++ brokerAddress ++ ":".toList ++
          (toString port).toList))
        match ← (liftM (body brokerAddress port).run :
            Program (Except Interruption Unit)) with
        | .ok _ => pure .success
        | .error (.exception what) =>
            let _ ← call (.log what)
            pure .failure
        | .error interruption => throw interruption

/-! ## The publisher -/

namespace Publisher

def messageCount : Nat := 100

/-- The body of the message with that index. -/
def messageBody (index : Nat) : Text :=
  '{' :: "\"sequence\"=".toList ++ (toString (index + 1)).toList ++ ['}']

def publication (index : Nat) : Publication where
  exchange := "amq.direct".toList
  routingKey := "test".toList
  contentType := "text/plain".toList
  deliveryMode := 2
  body := messageBody index

variable (errorString : Int → Text)

/-- The loop of `SendData`, from the message with that index on. -/
def sendFrom (index : Nat) : Nat → Program Unit
  | 0 => pure ()
  | count + 1 => do
      let _ ← call (.print ("Publisher".toList ++ messageBody index))
      let status ← call (.basicPublish (publication index))
      throwOnError errorString status "Publishing".toList
      sendFrom (index + 1) count

def sendData : Program Unit :=
  sendFrom errorString 0 messageCount

def destructor : Program Unit := do
  let _ ← call .channelClose
  let _ ← call .connectionClose
  call .destroyConnection

def body (hostname : Text) (port : Int) : Program Unit := do
  connect errorString hostname port
  withDestructor (do
    let _ ← call (.log "Sending data ...".toList)
    sendData errorString) destructor

def main : Program ExitStatus :=
  mainWith (body errorString)

end Publisher

/-! ## The consumer -/

namespace Consumer

def exchange : Text := "amq.direct".toList
def bindingKey : Text := "test".toList

/-- What is printed of a delivered message. -/
def envelopeLines (envelope : Envelope) : List Text :=
  ("Delivery ".toList ++ (toString envelope.deliveryTag).toList ++
      ", exchange: ".toList ++ envelope.exchange ++ ", routingkey: ".toList ++
      envelope.routingKey) ::
    (match envelope.contentType with
      | some contentType => ["Content-type: ".toList ++ contentType]
      | none => []) ++
    "----".toList :: amqpDump envelope.body

def printLines : List Text → Program Unit
  | [] => pure ()
  | line :: lines => do
      let _ ← call (.print line)
      printLines lines

variable (errorString : Int → Text)

def declareQueue : Program Unit := do
  let queue ← call .queueDeclare
  let declared ← call .getRpcReply
  throwOnAmqpError errorString declared "Declaring queue".toList
  let bytes ← call (.bytesMallocDup queue)
  if bytes = false then
    throw (.exception "Out of memory while copying queue name".toList)
  else
    let _ ← call (.queueBind queue exchange bindingKey)
    let bound ← call .getRpcReply
    throwOnAmqpError errorString bound "Binding queue".toList
    let _ ← call (.basicConsume queue)
    let consuming ← call .getRpcReply
    throwOnAmqpError errorString consuming "Consuming".toList

/-- `RecvAndPrintData`, with the attempts that its loop has left. -/
def recvAndPrintData : Nat → Program Unit
  | 0 => throw .attempts
  | attempts + 1 => do
      let _ ← call .maybeReleaseBuffers
      let (res, envelope) ← call .consumeMessage
      if res ≠ .normal then
        pure ()
      else
        printLines (envelopeLines envelope)
        let _ ← call (.destroyEnvelope envelope)
        recvAndPrintData attempts

def destructor : Program Unit := do
  let _ ← call .bytesFree
  let _ ← call .channelClose
  call .connectionClose

def body (attempts : Nat) (hostname : Text) (port : Int) : Program Unit := do
  connect errorString hostname port
  withDestructor (do
    declareQueue errorString
    let _ ← call (.log "Waiting to receive data ...".toList)
    recvAndPrintData attempts) destructor

def main (attempts : Nat) : Program ExitStatus :=
  mainWith (body errorString attempts)

end Consumer

end KosCeExtra.Rabbitmq
