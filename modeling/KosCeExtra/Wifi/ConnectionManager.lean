import Mathlib.Data.List.Basic
import KosCeExtra.Library.Dialogue
import KosCeExtra.Library.TextStream

/-!
# The connection manager of the `wpa_supplicant` client

A transcription of `ConnectionManager` from
`examples/wifi/wpa_supplicant_client`.  The only thing it does to the outside is
`ExecuteCommand`, which is answered with a text in the buffer of the caller or
fails.  A failure is folded into the empty text by `RunCommand`, and so is a
property that the status does not hold by `GetProperty`.

A text is a list of characters, one for each byte.
-/

namespace KosCeExtra.Wifi

open Dialogue

abbrev Text := List Char

/-- The result of `ExecuteCommand`: `rcOk` with what it has put in the buffer,
or another code. -/
inductive Answer where
  | success (buffer : Text)
  | failure
  deriving DecidableEq, Repr

abbrev Program (α : Type) := Dialogue Text (fun _ => Answer) α

/-- A text as it is read through a `char *`: up to its first NUL. -/
def cStr (text : Text) : Text :=
  text.takeWhile (· != Char.ofNat 0)

/-- What `RunCommand` makes of an answer. -/
def commandResult : Answer → Text
  | .success buffer => cStr buffer
  | .failure => []

def runCommand (cmd : Text) : Program Text := do
  let answer : Answer ← ask (cStr cmd)
  pure (commandResult answer)

def okText : Text := "OK".toList
def scanCommand : Text := "SCAN".toList
def scanResultsCommand : Text := "SCAN_RESULTS".toList
def statusCommand : Text := "STATUS".toList
def addNetworkCommand : Text := "ADD_NETWORK".toList

def setNetworkCommand (networkId property value : Text) : Text :=
  "SET_NETWORK ".toList ++ networkId ++ " ".toList ++ property ++
    " ".toList ++ value

def selectNetworkCommand (networkId : Text) : Text :=
  "SELECT_NETWORK ".toList ++ networkId

def disableNetworkCommand (networkId : Text) : Text :=
  "DISABLE_NETWORK ".toList ++ networkId

/-- The commands that are answered with `OK` and nothing else. -/
def runOkCommand (cmd : Text) : Program Bool := do
  let result ← runCommand cmd
  pure (decide (result = okText))

def startScan : Program Bool :=
  runOkCommand scanCommand

def getScanResults : Program Text :=
  runCommand scanResultsCommand

def getStatus : Program Text :=
  runCommand statusCommand

def addNetwork : Program Text :=
  runCommand addNetworkCommand

def setNetwork (networkId property value : Text) : Program Bool :=
  runOkCommand (setNetworkCommand networkId property value)

def selectNetwork (networkId : Text) : Program Bool :=
  runOkCommand (selectNetworkCommand networkId)

def disableNetwork (networkId : Text) : Program Bool :=
  runOkCommand (disableNetworkCommand networkId)

def getNetworks : Program (Bool × Text) := do
  if (← startScan) = false then
    pure (false, "Failed to get list of available networks".toList)
  else
    let result ← getScanResults
    pure (true, result)

/-- A line cut at its first `=`, if it has one. -/
def cutAtEquals (line : Text) : Option (Text × Text) :=
  match line.findIdx? (· == '=') with
  | some pos => some (line.take pos, line.drop (pos + 1))
  | none => none

/-- The `while` loop of `GetProperty`, with the string it reads into. -/
def propertyLoop (stream : TextStream) (line property : Text) : Text :=
  let read := stream.getline line '\n'
  if _ : read.1.ok = true then
    match cutAtEquals read.2 with
    | some (token, value) =>
        if token = property then value
        else propertyLoop read.1 read.2 property
    | none => propertyLoop read.1 read.2 property
  else
    []
  termination_by stream.rest.length
  decreasing_by
    · exact TextStream.getline_rest_lt (by assumption)
    · exact TextStream.getline_rest_lt (by assumption)

def getProperty (blob property : Text) : Text :=
  propertyLoop (TextStream.ofText blob) [] property

def wpaState : Text := "wpa_state".toList
def completed : Text := "COMPLETED".toList
def defaultTimeout : Nat := 10

/-- What `WaitStatus` makes of the answer to one `STATUS` command. -/
def statusVerdict (propertyName : Text) (checker : Text → Bool)
    (answer : Answer) : Option Bool :=
  if checker (getProperty (commandResult answer) propertyName) = true then
    some true
  else none

def waitStatus (propertyName : Text) (timeout : Nat) (checker : Text → Bool) :
    Program Bool :=
  poll statusCommand (statusVerdict propertyName checker) false timeout

structure ConnectionManager where
  ssid : Text
  psk : Text
  networkId : Text
  deriving DecidableEq, Repr

namespace ConnectionManager

/-- `Connect` with the network that `m_networkId` stands for. -/
def connectTo (self : ConnectionManager) : Program Bool := do
  if (← setNetwork self.networkId "ssid".toList self.ssid) = false then
    pure false
  else if (← setNetwork self.networkId "psk".toList self.psk) = false then
    pure false
  else if (← selectNetwork self.networkId) = false then
    pure false
  else
    waitStatus wpaState defaultTimeout fun status => decide (status = completed)

def connect (self : ConnectionManager) :
    Program (Bool × ConnectionManager) := do
  let networkId ← addNetwork
  let result ← connectTo { self with networkId := networkId }
  pure (result, { self with networkId := networkId })

def disconnect (self : ConnectionManager) : Program Bool := do
  if (← disableNetwork self.networkId) = false then
    pure false
  else
    waitStatus wpaState defaultTimeout fun status => decide (status ≠ completed)

end ConnectionManager

def getConnectionStatus : Program Text := do
  let status ← getStatus
  pure (getProperty status wpaState)

def getCurrentSSID : Program Text := do
  let status ← getStatus
  pure (getProperty status "ssid".toList)

/-- The properties of a status text, line by line. -/
def statusProperties (blob : Text) : List (Text × Text) :=
  (blob.splitOn '\n').filterMap cutAtEquals

/-- What a status text says about a property: its first mention. -/
def statusProperty (blob property : Text) : Option Text :=
  (statusProperties blob).lookup property

private theorem statusProperty_cons {line : Text} (free : '\n' ∉ line)
    (blob property : Text) :
    statusProperty (line ++ '\n' :: blob) property =
      match cutAtEquals line with
      | some (token, value) =>
          if token = property then some value else statusProperty blob property
      | none => statusProperty blob property := by
  rw [statusProperty, statusProperties,
    List.splitOn_append_cons_self_of_not_mem free]
  cases cut : cutAtEquals line with
  | none =>
      rw [List.filterMap_cons_none cut]
      rfl
  | some pair =>
      obtain ⟨token, value⟩ := pair
      rw [List.filterMap_cons_some cut, List.lookup_cons]
      by_cases same : token = property
      · simp [same]
      · have other : (property == token) = false := by
          simpa using Ne.symm same
        simp [same, other, statusProperty, statusProperties]

private theorem statusProperty_line {line : Text} (free : '\n' ∉ line)
    (property : Text) :
    statusProperty line property =
      match cutAtEquals line with
      | some (token, value) => if token = property then some value else none
      | none => none := by
  rw [statusProperty, statusProperties, List.splitOn_eq_singleton free]
  cases cut : cutAtEquals line with
  | none => simp [cut]
  | some pair =>
      obtain ⟨token, value⟩ := pair
      by_cases same : token = property
      · simp [cut, same]
      · have other : (property == token) = false := by
          simpa using Ne.symm same
        simp [cut, same, other, List.lookup_cons]

private theorem propertyLoop_not_good {stream : TextStream}
    (bad : (stream.eof || stream.fail) = true) (line property : Text) :
    propertyLoop stream line property = [] := by
  rw [propertyLoop]
  simp [TextStream.getline_not_good bad, TextStream.ok]

private theorem propertyLoop_delimited {line : Text} (free : '\n' ∉ line)
    (after old property : Text) :
    propertyLoop (TextStream.ofText (line ++ '\n' :: after)) old property =
      match cutAtEquals line with
      | some (token, value) =>
          if token = property then value
          else propertyLoop (TextStream.ofText after) line property
      | none => propertyLoop (TextStream.ofText after) line property := by
  rw [propertyLoop]
  simp only [TextStream.getline_delimited free]
  exact dif_pos rfl

/-- The text behind the last newline: the loop ends after it. -/
theorem propertyLoop_last {line : Text} (free : '\n' ∉ line)
    (old property : Text) :
    propertyLoop (TextStream.ofText line) old property =
      match cutAtEquals line with
      | some (token, value) => if token = property then value else []
      | none => [] := by
  rw [propertyLoop]
  simp only [TextStream.getline_last free]
  cases line with
  | nil => rfl
  | cons head tail =>
      have ended : ∀ last, propertyLoop
          ⟨[], true, (head :: tail).isEmpty⟩ last property = [] :=
        fun last => propertyLoop_not_good rfl last property
      simp only [ended]
      exact dif_pos rfl

/-- The loop finds the first mention of the property. -/
theorem propertyLoop_ofText (blob line property : Text) :
    propertyLoop (TextStream.ofText blob) line property =
      (statusProperty blob property).getD [] := by
  induction size : blob.length using Nat.strongRecOn
    generalizing blob line with
  | ind bound induction =>
      by_cases newline : '\n' ∈ blob
      · obtain ⟨before, after, rfl, free⟩ := List.eq_append_cons_of_mem newline
        have shorter : after.length < bound := by
          rw [← size, List.length_append, List.length_cons]
          omega
        rw [propertyLoop_delimited free, statusProperty_cons free,
          induction after.length shorter after before rfl]
        cases cutAtEquals before with
        | none => rfl
        | some pair =>
            simp only
            split
            · rfl
            · rfl
      · rw [propertyLoop_last newline, statusProperty_line newline]
        cases cutAtEquals blob with
        | none => rfl
        | some pair =>
            simp only
            split
            · rfl
            · rfl

theorem getProperty_eq (blob property : Text) :
    getProperty blob property = (statusProperty blob property).getD [] :=
  propertyLoop_ofText blob [] property

end KosCeExtra.Wifi
