import KosCeExtra.Wifi.ConnectionManager

/-!
# The client of `wpa_supplicant`

The `main` function of `examples/wifi/wpa_supplicant_client` with the configuration that
it has read: it scans, connects, sends one message to a server over TCP where the
configuration names one, and disconnects.  What the socket does is asked of the
outside.  An address that cannot be parsed makes the constructor of the socket throw,
and nothing catches that.
-/

namespace KosCeExtra.Wifi

open Dialogue

namespace Client

/-- The variables that the configuration file sets. -/
structure Configuration where
  ssid : Text
  psk : Text
  serverIp : Text
  serverPort : UInt16
  deriving DecidableEq, Repr

/-- A call; those of the socket give the message of the error that they have left. -/
inductive Call where
  | executeCommand (cmd : Text)
  | print (line : Text)
  | parseAddress (ip : Text)
  | connect (ip : Text) (port : UInt16)
  | send (message : Text)
  | isOpen
  | close
  deriving DecidableEq, Repr

@[reducible] def Reply : Call → Type
  | .executeCommand _ => Answer
  | .print _ => Unit
  | .parseAddress _ => Bool
  | .connect _ _ => Option Text
  | .send _ => Option Text
  | .isOpen => Bool
  | .close => Option Text

inductive ExitStatus where
  | success
  | failure
  deriving DecidableEq, Repr

/-- `boost::system::system_error`, which leaves `main`. -/
inductive Uncaught where
  | illegalAddress
  deriving DecidableEq, Repr

abbrev ClientProgram (α : Type) := ExceptT Uncaught (Dialogue Call Reply) α

def call (made : Call) : ClientProgram (Reply made) :=
  liftM (ask made : Dialogue Call Reply _)

/-- What the connection manager does, as a part of the client. -/
def manage (program : Wifi.Program α) : ClientProgram α :=
  liftM (embed Call.executeCommand program : Dialogue Call Reply α)

def logOperationResult (message : Text) (error : Option Text) : Text :=
  match error with
  | some what => message ++ " failed! Error: ".toList ++ what
  | none => message ++ " success.".toList

def hello : Text := "Hello from KasperskyOS\n".toList

/-- The constructor of `BoostTcpSocket`, with the error that it keeps. -/
def openSocket (ip : Text) (port : UInt16) : ClientProgram (Option Text) := do
  let legal ← call (.parseAddress ip)
  if legal = false then
    throw .illegalAddress
  else
    let error ← call (.connect ip port)
    let _ ← call (.print (logOperationResult "TCP connection".toList error))
    pure error

def sendMessage (error : Option Text) (message : Text) : ClientProgram Unit := do
  if error ≠ none then
    pure ()
  else
    let failed ← call (.send message)
    let _ ← call (.print (logOperationResult ("Send message \"".toList ++
      message.filter (· != '\n') ++ "\"".toList) failed))
    pure ()

/-- The destructor. -/
def closeSocket : ClientProgram Unit := do
  let isOpen ← call .isOpen
  if isOpen = false then
    pure ()
  else
    let failed ← call .close
    let _ ← call (.print (logOperationResult "Close socket".toList failed))
    pure ()

/-- What the client does over the connection. -/
def greetServer (config : Configuration) : ClientProgram Unit := do
  if config.serverIp = [] then
    let _ ← call (.print "Server IP missing from config, not connecting.".toList)
    pure ()
  else
    let error ← openSocket config.serverIp config.serverPort
    sendMessage error hello
    closeSocket

def printStatus : ClientProgram Unit := do
  let status ← manage getConnectionStatus
  let _ ← call (.print ("Connection status: ".toList ++ status))
  pure ()

/-- `main` from its `Disconnect` on. -/
def leave (manager : ConnectionManager) (ssid : Text) : ClientProgram ExitStatus := do
  let left ← manage manager.disconnect
  if left = false then
    let _ ← call (.print "WiFi disconnection error".toList)
    pure .failure
  else
    let _ ← call (.print ("WiFi disconnection success from ssid '".toList ++ ssid ++
      "'".toList))
    printStatus
    pure .success

/-- `main` from its `Connect` on. -/
def visit (config : Configuration) (manager : ConnectionManager) :
    ClientProgram ExitStatus := do
  let (connected, manager) ← manage manager.connect
  if connected = false then
    let _ ← call (.print "Connection error".toList)
    pure .failure
  else
    let ssid ← manage getCurrentSSID
    let _ ← call (.print ("WiFi connection success to ssid '".toList ++ ssid ++
      "'".toList))
    printStatus
    greetServer config
    leave manager ssid

def stars : Text := "*************************************".toList

def main (config : Configuration) : ClientProgram ExitStatus := do
  let _ ← call (.print "Start Wpa Client".toList)
  let _ ← call (.print ("ssid: ".toList ++ config.ssid))
  let _ ← call (.print ("psk: ".toList ++ config.psk))
  let _ ← call (.print ("server ip:port: ".toList ++ config.serverIp ++ ":".toList ++
    (toString config.serverPort).toList))
  let manager : ConnectionManager := ⟨config.ssid, config.psk, []⟩
  printStatus
  let _ ← call (.print stars)
  let (found, networkList) ← manage getNetworks
  let _ ← call (.print networkList)
  let _ ← call (.print stars)
  if found = false then
    pure .failure
  else
    visit config manager

end Client

end KosCeExtra.Wifi
