import Mathlib.Data.List.Basic

/-!
# Address books from files to the log

The two programs of `examples/protobuf`.  The producer reads each file it is given as
JSON, fills in an address book, serializes it and sends it to the consumer, which parses
the message and prints the book to its log.  The JSON parser, the two directions of the
serialization, the clock and the transport are taken as they come; what the programs do
with a JSON value is transcribed, exceptions included.

Texts are Unicode texts: the JSON parser lets no other in.  A message is a sequence of
signed bytes.
-/

namespace KosCeExtra.Protobuf

abbrev Text := List Char

/-- A value of the JSON library, with the members of an object in the order of their
names. -/
inductive Json where
  | null
  | boolean (value : Bool)
  | number (literal : Text)
  | string (text : Text)
  | array (elements : List Json)
  | object (members : List (Text × Json))

inductive Exception where
  | parseError (what : Text)
  | typeError (id : Nat)
  | transport (what : Text)
  deriving DecidableEq, Repr

namespace Json

/-- `operator[]`: a null value becomes an object, and a missing member null. -/
def member (json : Json) (key : Text) : Except Exception Json :=
  match json with
  | .null => .ok .null
  | .object members => .ok ((members.lookup key).getD .null)
  | _ => .error (.typeError 305)

/-- What a range `for` goes over: any other value than these is its own one element. -/
def elements : Json → List Json
  | .null => []
  | .array elements => elements
  | .object members => members.map Prod.snd
  | primitive => [primitive]

/-- `value` with the empty text as the default. -/
def value (json : Json) (key : Text) : Except Exception Text :=
  match json with
  | .object members =>
      match members.lookup key with
      | none => .ok []
      | some (.string text) => .ok text
      | some _ => .error (.typeError 302)
  | _ => .error (.typeError 306)

/-- The elements of a member, where there is such a member. -/
def listed (json : Json) (key : Text) : List Json :=
  match json with
  | .object members =>
      match members.lookup key with
      | some member => member.elements
      | none => []
  | _ => []

end Json

/-! ## The messages of `addressbook.proto` -/

/-- An open enumeration: a message may hold other values than the three named ones. -/
abbrev PhoneType := Int32

def mobile : PhoneType := 0
def home : PhoneType := 1
def work : PhoneType := 2

structure PhoneNumber where
  number : Text
  type : PhoneType
  deriving DecidableEq, Repr

structure Timestamp where
  seconds : Int64
  nanos : Int32
  deriving DecidableEq, Repr

structure Person where
  name : Text
  id : Int32
  email : Text
  phones : List PhoneNumber
  lastUpdated : Option Timestamp
  deriving DecidableEq, Repr

structure AddressBook where
  people : List Person
  deriving DecidableEq, Repr

def maxMessageSize : Nat := 1024

abbrev Message := List Int8

/-- How a call of `Consume` goes: it returns, or an exception comes out of the proxy,
before the consumer has been reached or when it has been. -/
inductive Transport where
  | returned
  | refused (what : Text)
  | broken (what : Text)
  deriving DecidableEq, Repr

/-- What surrounds the two programs. -/
structure Outside where
  connect : Except Exception Unit
  /-- `is >> content` -/
  parseJson : Text → Except Exception Json
  /-- the readings of `time(NULL)`, in their order -/
  time : Nat → Int64
  serialize : AddressBook → Option (List UInt8)
  parse : List UInt8 → Option AddressBook
  showTime : Timestamp → Text
  /-- how the calls of `Consume` go, in their order -/
  transport : Nat → Transport

/-! ## The producer -/

def phoneTypes : List (Text × PhoneType) :=
  [("Home".toList, home), ("Work".toList, work), ("Mobile".toList, mobile)]

def readPhone (phoneInfo : Json) : Except Exception PhoneNumber := do
  let number ← phoneInfo.value "number".toList
  let type ← phoneInfo.value "type".toList
  pure ⟨number, (phoneTypes.lookup type).getD mobile⟩

def secondsToTimestamp (seconds : Int64) : Timestamp :=
  ⟨seconds, 0⟩

/-- One turn of the outer loop of `ReadAddressBook`, with the identifier and the reading
of the clock that it uses. -/
def readPerson (id : Int32) (time : Int64) (personInfo : Json) :
    Except Exception Person := do
  let name ← personInfo.value "name".toList
  let email ← personInfo.value "email".toList
  let phones ← (personInfo.listed "phones".toList).mapM readPhone
  pure ⟨name, id, email, phones, some (secondsToTimestamp time)⟩

/-- The static variable of `ReadAddressBook`, and how often the clock has been read. -/
structure Counters where
  id : Int32
  readings : Nat
  deriving DecidableEq, Repr

def Counters.next (counters : Counters) : Counters :=
  ⟨counters.id + 1, counters.readings + 1⟩

def readPeople (outside : Outside) (counters : Counters) :
    List Json → Except Exception (List Person × Counters)
  | [] => pure ([], counters)
  | personInfo :: rest => do
      let person ← readPerson counters.id (outside.time counters.readings) personInfo
      let (people, last) ← readPeople outside counters.next rest
      pure (person :: people, last)

def readAddressBook (outside : Outside) (counters : Counters) (file : Text) :
    Except Exception (AddressBook × Counters) := do
  let content ← outside.parseJson file
  let book ← content.member "addressBook".toList
  let (people, last) ← readPeople outside counters book.elements
  pure (⟨people⟩, last)

/-! ## The consumer -/

inductive Line where
  | personId (id : Int32)
  | name (name : Text)
  | email (email : Text)
  | phone (type number : Text)
  | updated (time : Text)
  | parseFailed
  deriving DecidableEq, Repr

/-- The line as it is logged. -/
def Line.text : Line → Text
  | .personId id => "Person ID: ".toList ++ (toString id).toList
  | .name text => "  Name: ".toList ++ text
  | .email address => "  E-mail address: ".toList ++ address
  | .phone type number => "  ".toList ++ type ++ " phone #: ".toList ++ number
  | .updated time => "  Updated: ".toList ++ time
  | .parseFailed => "Failed to parse address book.".toList

/-- The map of the consumer, from the types to their names. -/
def phoneTypeNames : List (PhoneType × Text) :=
  [(home, "Home".toList), (work, "Work".toList), (mobile, "Mobile".toList)]

def phoneLine (phone : PhoneNumber) : Line :=
  .phone ((phoneTypeNames.lookup phone.type).getD "Unknown".toList) phone.number

def printPerson (outside : Outside) (person : Person) : List Line :=
  [.personId person.id, .name person.name] ++
    (if person.email ≠ [] then [.email person.email] else []) ++
    person.phones.map phoneLine ++
    match person.lastUpdated with
    | some time => [.updated (outside.showTime time)]
    | none => []

def printAddressBook (outside : Outside) (book : AddressBook) : List Line :=
  book.people.flatMap (printPerson outside)

/-- What `Consume` logs. -/
def consume (outside : Outside) (message : Message) : List Line :=
  match outside.parse (message.map Int8.toUInt8) with
  | some book => printAddressBook outside book
  | none => [.parseFailed]

/-! ## A run of both -/

/-- Why a file is passed over. -/
inductive Notice where
  | notFound
  | empty
  | tooBig
  | notSerialized
  deriving DecidableEq, Repr

inductive ExitStatus where
  | success
  | failure
  deriving DecidableEq, Repr

structure System where
  counters : Counters
  /-- how often `Consume` has been called -/
  calls : Nat
  /-- what the producer has logged of the files, by the file's name -/
  notices : List (Notice × Text)
  /-- what the consumer has logged -/
  log : List Line
  deriving DecidableEq, Repr

namespace System

def initial : System :=
  ⟨⟨0, 0⟩, 0, [], []⟩

def notice (s : System) (notice : Notice) (file : Text) : System :=
  { s with notices := s.notices ++ [(notice, file)] }

/-- A call of `Consume` through the proxy. -/
def call (outside : Outside) (s : System) (message : Message) :
    System × Except Exception Unit :=
  let called := { s with calls := s.calls + 1 }
  let consumed := { called with log := called.log ++ consume outside message }
  match outside.transport s.calls with
  | .returned => (consumed, .ok ())
  | .refused what => (called, .error (.transport what))
  | .broken what => (consumed, .error (.transport what))

/-- A file by its name, with its contents where it can be opened. -/
abbrev File := Text × Option Text

/-- What `main` does with an address book that it has read from a file. -/
def sendBook (outside : Outside) (s : System) (file : Text) (book : AddressBook) :
    System × Except Exception Unit :=
  match outside.serialize book with
  | none => (s.notice .notSerialized file, .ok ())
  | some message =>
      if message = [] then
        (s.notice .empty file, .ok ())
      else if maxMessageSize < message.length then
        (s.notice .tooBig file, .ok ())
      else
        s.call outside (message.map UInt8.toInt8)

/-- One turn of the loop in `main`. -/
def sendFile (outside : Outside) (s : System) (file : File) :
    System × Except Exception Unit :=
  match file.2 with
  | none => (s.notice .notFound file.1, .ok ())
  | some contents =>
      match readAddressBook outside s.counters contents with
      | .error exception => (s, .error exception)
      | .ok (book, counters) =>
          sendBook outside { s with counters := counters } file.1 book

/-- The loop, which the first exception ends. -/
def sendFiles (outside : Outside) (s : System) :
    List File → System × Except Exception Unit
  | [] => (s, .ok ())
  | file :: files =>
      match s.sendFile outside file with
      | (sent, .ok ()) => sendFiles outside sent files
      | (sent, .error exception) => (sent, .error exception)

/-- The producer's `main`, with the files that it is given. -/
def main (outside : Outside) (files : List File) : System × ExitStatus :=
  if files = [] then
    (initial, .success)
  else
    match outside.connect with
    | .error _ => (initial, .failure)
    | .ok () =>
        match initial.sendFiles outside files with
        | (last, .ok ()) => (last, .success)
        | (last, .error _) => (last, .failure)

end System

end KosCeExtra.Protobuf
