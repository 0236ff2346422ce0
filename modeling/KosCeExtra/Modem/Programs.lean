import KosCeExtra.Library.Dialogue
import KosCeExtra.Sms.AsciiToPdu

/-!
# The programs behind the MBIM modem

`mbim_sms` sends a text message and `mbim_ntpd` opens a data connection and
waits for the clock to be set over it.  Both are sequences of calls to the MBIM
wrapper and to the system, which the model makes in the order of the source;
the replies are arbitrary.  A return code of the wrapper is zero, a negative
`errno` style failure, or a positive MBIM status.

The programs have their own copies of `WaitSimReady` and `WaitRegistered`.  The
copies of `mbim_sms` return codes, and the ones of `mbim_ntpd` return an exit
status.  Log output and `list_network_ifaces`, which only prints, are left out.
-/

namespace KosCeExtra.Modem

open Dialogue

inductive IfaceCondition where
  | iwfExists
  | iwfIp4
  deriving DecidableEq, Repr

/-- `MBIM_SUBSCRIBER_READY_STATE_*` -/
inductive SubscriberState where
  | initialized
  | other (state : Nat)
  deriving DecidableEq, Repr

/-- `MBIM_REGISTER_STATE_*` -/
inductive RegisterState where
  | home
  | roaming
  | partner
  | denied
  | other (state : Nat)
  deriving DecidableEq, Repr

inductive AuthProtocol where
  | none
  | pap
  deriving DecidableEq, Repr

/-- The arguments of `VfsMbimConnect` that are not constants of the call. -/
structure ConnectArguments where
  apn : List UInt16
  apnLen : Nat
  userName : List UInt16
  userNameLen : Nat
  password : List UInt16
  passwordLen : Nat
  authProtocol : AuthProtocol
  deriving DecidableEq, Repr

inductive Errno where
  | eexist
  | other (code : Nat)
  deriving DecidableEq, Repr

/-- The calls of the programs.  There is one modem, so the handle is left out. -/
inductive Call where
  | waitForIface (condition : IfaceCondition)
  | vfsMbimOpen
  | vfsMbimInfoSim
  | vfsMbimInfoRegisterState
  | vfsMbimSmsSendPdu (pdu : List UInt8)
  | vfsMbimConnect (arguments : ConnectArguments)
  | vfsMbimInfoIpConnection
  | vfsMbimClose
  | localtime
  | clockSettime (year month day : Nat)
  | socket
  | addRoute (gateway : UInt32) (update : Bool)
  | closeSocket
  deriving DecidableEq, Repr

/-- What a call comes back with.  `localtime` gives the year, or a null pointer;
adding a route gives the result of `ioctl` with `errno`. -/
abbrev Reply : Call → Type
  | .waitForIface _ => Bool
  | .vfsMbimOpen => Int
  | .vfsMbimInfoSim => Int × SubscriberState
  | .vfsMbimInfoRegisterState => Int × RegisterState
  | .vfsMbimSmsSendPdu _ => Int
  | .vfsMbimConnect _ => Int
  | .vfsMbimInfoIpConnection => Int × List UInt32
  | .vfsMbimClose => Int
  | .localtime => Option Int
  | .clockSettime _ _ _ => Int
  | .socket => Int
  | .addRoute _ _ => Int × Errno
  | .closeSocket => Int

abbrev Program (α : Type) := Dialogue Call Reply α

/-- `EXIT_SUCCESS` and `EXIT_FAILURE` -/
inductive ExitStatus where
  | success
  | failure
  deriving DecidableEq, Repr

/-- How `main` ends: with an exit status, or in an access outside `pdu`. -/
inductive Ending where
  | exit (status : ExitStatus)
  | fault (access : Fault)
  deriving DecidableEq, Repr

def timeoutS : Nat := 30

namespace SmsClient

/-- One turn of `WaitSimReady`: the code that the loop returns, if any. -/
def simVerdict : Int × SubscriberState → Option Int
  | (ret, subState) =>
      if ret ≠ 0 then some ret
      else if subState = .initialized then some 0
      else none

def waitSimReady (seconds : Nat) : Program Int :=
  poll .vfsMbimInfoSim simVerdict (-1) seconds

/-- One turn of `WaitRegistered`. -/
def registerVerdict : Int × RegisterState → Option Int
  | (ret, registerState) =>
      if ret ≠ 0 then some (-1)
      else match registerState with
        | .home => some 0
        | .roaming => some 0
        | .partner => some 0
        | .denied => some (-1)
        | .other _ => none

def waitRegistered (seconds : Nat) : Program Int :=
  poll .vfsMbimInfoRegisterState registerVerdict (-1) seconds

/-- Leave the program behind an opened modem. -/
def closeAndFail : Program Ending := do
  let _ ← ask .vfsMbimClose
  pure (.exit .failure)

/-- The end of `main`: a message that could not be sent is only logged. -/
def sendAndClose (pdu : List UInt8) : Program Ending := do
  let _ ← ask (.vfsMbimSmsSendPdu pdu)
  let ret ← ask .vfsMbimClose
  if ret < 0 then pure (.exit .failure) else pure (.exit .success)

/-- `uint8_t pdu[256] = {0}` -/
def pduBuffer : List UInt8 := List.replicate 256 0

/-- `main` behind the waiting: encode the message and send what was encoded. -/
def encodeAndSend (destNumber smsText : Sms.CString) : Program Ending :=
  match Sms.asciiToPdu none (some destNumber) (some smsText) (some pduBuffer)
      256 with
  | .error access => pure (.fault access)
  | .ok (pduLen, pdu) =>
      if pduLen < 0 then closeAndFail
      else sendAndClose (pdu.take pduLen.toNat)

/-- `main` behind an opened modem. -/
def waitAndSend (destNumber smsText : Sms.CString) : Program Ending := do
  if (← waitSimReady timeoutS) < 0 then
    closeAndFail
  else if (← waitRegistered timeoutS) < 0 then
    closeAndFail
  else
    encodeAndSend destNumber smsText

/-- `main` of `mbim_sms`, for the values of `DEST_NUMBER` and `SMS_TEXT`. -/
def main (destNumber smsText : Sms.CString) : Program Ending := do
  if (← ask (.waitForIface .iwfExists)) = false then
    pure (.exit .failure)
  else if (← ask .vfsMbimOpen) ≠ 0 then
    pure (.exit .failure)
  else
    waitAndSend destNumber smsText

end SmsClient

namespace NtpdClient

def kosBirthdayYear : Nat := 2011
def kosBirthdayMonth : Nat := 11
def kosBirthdayDay : Nat := 11
def attempts : Nat := 10

/-- `u"internet"` -/
def wwanApn : List UInt16 := [0x69, 0x6e, 0x74, 0x65, 0x72, 0x6e, 0x65, 0x74]
def wwanUser : List UInt16 := []
def wwanPassword : List UInt16 := []

/-- One turn of `WaitSimReady`. -/
def simVerdict : Int × SubscriberState → Option ExitStatus
  | (ret, subState) =>
      if ret ≠ 0 then some .failure
      else if subState = .initialized then some .success
      else none

def waitSimReady (seconds : Nat) : Program ExitStatus :=
  poll .vfsMbimInfoSim simVerdict .failure seconds

/-- One turn of `WaitRegistered`. -/
def registerVerdict : Int × RegisterState → Option ExitStatus
  | (ret, registerState) =>
      if ret ≠ 0 then some .failure
      else match registerState with
        | .home => some .success
        | .roaming => some .success
        | .partner => some .success
        | .denied => some .failure
        | .other _ => none

def waitRegistered (seconds : Nat) : Program ExitStatus :=
  poll .vfsMbimInfoRegisterState registerVerdict .failure seconds

def closeSocketWith (status : ExitStatus) : Program ExitStatus := do
  let _ ← ask .closeSocket
  pure status

/-- A route that exists already is replaced in a second try. -/
def setDefaultGateway (addr : UInt32) : Program ExitStatus := do
  if (← ask .socket) = -1 then
    pure .failure
  else
    let added : Int × Errno ← ask (Call.addRoute addr false)
    if added.1 < 0 then
      if added.2 = .eexist then
        let updated : Int × Errno ← ask (Call.addRoute addr true)
        if updated.1 = 0 then
          closeSocketWith .success
        else
          closeSocketWith .failure
      else
        closeSocketWith .failure
    else
      closeSocketWith .success

/-- The length of a string, padded to an even number. -/
def strLen16PadEven (s : List UInt16) : Nat :=
  if s.length % 2 = 1 then s.length + 1 else s.length

def connectArguments (apn userName password : List UInt16) :
    ConnectArguments where
  apn := apn
  apnLen := strLen16PadEven apn
  userName := userName
  userNameLen := strLen16PadEven userName
  password := password
  passwordLen := strLen16PadEven password
  authProtocol := if userName = [] then .none else .pap

/-- `MbimConnect` behind the call of `VfsMbimConnect`. -/
def configureConnection : Program ExitStatus := do
  if (← ask (.waitForIface .iwfIp4)) = false then
    pure .failure
  else
    let ipConfig : Int × List UInt32 ← ask Call.vfsMbimInfoIpConnection
    if ipConfig.1 ≠ 0 then
      pure .failure
    else
      match ipConfig.2 with
      | [] => pure .failure
      | address :: _ => setDefaultGateway address

def mbimConnect (apn userName password : List UInt16) :
    Program ExitStatus := do
  if (← waitSimReady timeoutS) ≠ .success then
    pure .failure
  else if (← waitRegistered timeoutS) ≠ .success then
    pure .failure
  else if (← ask (.vfsMbimConnect
      (connectArguments apn userName password))) ≠ 0 then
    pure .failure
  else
    configureConnection

/-- `GetCurrentTimeinfo` around the clock that is set to the past. -/
def setInitialTime : Program ExitStatus := do
  if (← ask .localtime) = none then
    pure .failure
  else if (← ask (.clockSettime kosBirthdayYear kosBirthdayMonth
      kosBirthdayDay)) ≠ 0 then
    pure .failure
  else if (← ask .localtime) = none then
    pure .failure
  else
    pure .success

/-- One turn of `WaitTimeUpdate`. -/
def timeVerdict : Option Int → Option ExitStatus
  | none => some .failure
  | some year => if year > kosBirthdayYear then some .success else none

def waitTimeUpdate : Program ExitStatus :=
  poll .localtime timeVerdict .failure attempts

/-- `main` behind an opened modem. -/
def connectAndWait : Program ExitStatus := do
  if (← mbimConnect wwanApn wwanUser wwanPassword) ≠ .success then
    let _ ← ask .vfsMbimClose
    pure .failure
  else
    let ret ← waitTimeUpdate
    let _ ← ask .vfsMbimClose
    pure ret

/-- `main` of `mbim_ntpd`. -/
def main : Program ExitStatus := do
  if (← setInitialTime) ≠ .success then
    pure .failure
  else if (← ask (.waitForIface .iwfExists)) = false then
    pure .failure
  else if (← ask .vfsMbimOpen) ≠ 0 then
    pure .failure
  else
    connectAndWait

end NtpdClient

end KosCeExtra.Modem
