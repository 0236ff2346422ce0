import KosCeExtra.Protobuf.Reading

/-!
# What reaches the log of the consumer

Between the files and the log an address book is a JSON value, a message in memory, a
sequence of bytes and a message again.  All that is asked of the serialization is that
parsing undoes it.  The log then shows the entries of the files one after the other,
numbered through, where the message is one that the interface takes, and it says of
every phone what the file says, or that it is a mobile.
-/

namespace KosCeExtra.Protobuf

/-- What is serialized can be parsed again. -/
def Outside.RoundTrips (outside : Outside) : Prop :=
  ∀ book message, outside.serialize book = some message →
    outside.parse message = some book

def knownTypes : List Text :=
  ["Home".toList, "Work".toList, "Mobile".toList]

/-- The type that a phone is shown with. -/
def shownType (type : Text) : Text :=
  if type ∈ knownTypes then type else "Mobile".toList

def Entry.lines (outside : Outside) (index : Nat) (entry : Entry) : List Line :=
  [.personId (Int32.ofNat index), .name entry.name] ++
    (if entry.email ≠ [] then [.email entry.email] else []) ++
    entry.phones.map (fun phone => .phone (shownType phone.2) phone.1) ++
    [.updated (outside.showTime (secondsToTimestamp (outside.time index)))]

def entryLines (outside : Outside) : Nat → List Entry → List Line
  | _, [] => []
  | start, entry :: entries =>
      entry.lines outside start ++ entryLines outside (start + 1) entries

/-- The entries make a message that the interface takes. -/
def Sendable (outside : Outside) (start : Nat) (entries : List Entry) : Prop :=
  ∃ message, outside.serialize ⟨people outside start entries⟩ = some message ∧
    message ≠ [] ∧ message.length ≤ maxMessageSize

instance (outside : Outside) (start : Nat) (entries : List Entry) :
    Decidable (Sendable outside start entries) :=
  match found : outside.serialize ⟨people outside start entries⟩ with
  | none => isFalse fun ⟨_, same, _⟩ => by
      rw [found] at same
      cases same
  | some message =>
      if fits : message ≠ [] ∧ message.length ≤ maxMessageSize then
        isTrue ⟨message, found, fits⟩
      else
        isFalse fun ⟨_, same, both⟩ => by
          rw [found] at same
          cases same
          exact fits both

/-- What the log shows of one file.  Of a book that cannot be serialized, that is empty
or that is too big it shows nothing; the numbers of its entries are used up all the
same. -/
def fileLines (outside : Outside) (start : Nat) (entries : List Entry) : List Line :=
  if Sendable outside start entries then entryLines outside start entries else []

/-- What it shows of all of them, the numbers going on from file to file. -/
def shown (outside : Outside) : Nat → List (List Entry) → List Line
  | _, [] => []
  | start, entries :: files =>
      fileLines outside start entries ++
        shown outside (start + entries.length) files

/-- What the producer takes a file for: a file that is not there has no entries. -/
def Yields (outside : Outside) (file : System.File) (entries : List Entry) : Prop :=
  match file.2 with
  | none => entries = []
  | some contents => Holds outside contents entries

/-! ## A book of one person -/

/-- An object in braces. -/
def braced (text : Text) : Text :=
  '{' :: text ++ ['}']

def sampleContents : Text :=
  braced ("\"addressBook\":[".toList ++
    braced ("\"name\":\"Al\",\"phones\":[".toList ++
      braced "\"number\":\"7\",\"type\":\"Home\"".toList ++ "]".toList) ++
    "]".toList)

def sampleJson : Json :=
  .object [("addressBook".toList, .array [.object [
    ("name".toList, .string "Al".toList),
    ("phones".toList, .array [.object [
      ("number".toList, .string "7".toList),
      ("type".toList, .string "Home".toList)]])]])]

def sampleBook : AddressBook where
  people := [{
    name := "Al".toList
    id := 0
    email := []
    phones := [⟨"7".toList, home⟩]
    lastUpdated := some ⟨5, 0⟩ }]

/-- The book on the wire: fields that have their default value are left out. -/
def sampleMessage : List UInt8 :=
  [0x0A, 15, 0x0A, 2, 0x41, 0x6C, 0x22, 5, 0x0A, 1, 0x37, 0x10, 1, 0x2A, 2, 0x08, 5]

/-- A serialization of this book and of the empty one. -/
def sampleOutside : Outside where
  connect := .ok ()
  parseJson text :=
    if text = sampleContents then .ok sampleJson else .error (.parseError [])
  time := fun _ => 5
  serialize book :=
    if book = sampleBook then some sampleMessage
    else if book = ⟨[]⟩ then some []
    else none
  parse message :=
    if message = sampleMessage then some sampleBook
    else if message = [] then some ⟨[]⟩
    else none
  showTime := fun _ => "1970-01-01T00:00:05Z".toList
  transport := fun _ => .returned

def sampleFiles : List System.File :=
  [("book.json".toList, some sampleContents), ("missing.json".toList, none)]

theorem sampleOutside_roundTrips : sampleOutside.RoundTrips := by
  intro book message serialized
  simp only [sampleOutside] at serialized ⊢
  split at serialized
  next isSample =>
    cases serialized
    rw [if_pos rfl, isSample]
  next =>
    split at serialized
    next isEmpty =>
      cases serialized
      rw [if_neg (by decide), if_pos rfl, isEmpty]
    next => cases serialized

/-! ## From the entries to the lines -/

private theorem phoneLine_phoneOf (phone : Text × Text) :
    phoneLine (phoneOf phone) = .phone (shownType phone.2) phone.1 := by
  obtain ⟨number, type⟩ := phone
  by_cases isHome : type = "Home".toList
  · rw [isHome]
    rfl
  by_cases isWork : type = "Work".toList
  · rw [isWork]
    rfl
  by_cases isMobile : type = "Mobile".toList
  · rw [isMobile]
    rfl
  · have unknown : type ∉ knownTypes := by
      simp [knownTypes, -String.reduceToList, isHome, isWork, isMobile]
    have missing : phoneTypes.lookup type = none := by
      apply List.lookup_eq_none_iff.mpr
      simp [phoneTypes, -String.reduceToList, isHome, isWork, isMobile]
    rw [phoneLine, phoneOf, missing, shownType, if_neg unknown]
    rfl

variable {outside : Outside}

private theorem printPerson_person (index : Nat) (entry : Entry) :
    printPerson outside (entry.person outside index) =
      entry.lines outside index := by
  have phones : entry.phones.map (phoneLine ∘ phoneOf) = entry.phones.map fun phone =>
      Line.phone (shownType phone.2) phone.1 :=
    List.map_congr_left fun phone _ => phoneLine_phoneOf phone
  rw [printPerson, Entry.lines, Entry.person, List.map_map, phones]

private theorem printAddressBook_people (start : Nat) (entries : List Entry) :
    printAddressBook outside ⟨people outside start entries⟩ =
      entryLines outside start entries := by
  induction entries generalizing start with
  | nil => rfl
  | cons entry entries induction =>
      have rest := induction (start + 1)
      rw [printAddressBook] at rest ⊢
      rw [people, List.flatMap_cons, rest, printPerson_person, entryLines]

/-- The bytes of a message are the same behind the interface. -/
theorem consume_serialized (roundTrips : outside.RoundTrips) {start : Nat}
    {entries : List Entry} {message : List UInt8}
    (serialized : outside.serialize ⟨people outside start entries⟩ = some message) :
    consume outside (message.map UInt8.toInt8) = entryLines outside start entries := by
  have same : (message.map UInt8.toInt8).map Int8.toUInt8 = message := by
    rw [List.map_map]
    exact List.map_id message
  rw [consume, same, roundTrips _ _ serialized]
  exact printAddressBook_people start entries

/-! ## One file -/

namespace System

/-- The system has read so many entries, and the log shows those lines. -/
structure Shows (s : System) (count : Nat) (lines : List Line) : Prop where
  counters : s.counters = countersAt count
  log : s.log = lines

/-- Why a turn of the loop ends the producer. -/
inductive Stops (outside : Outside) (count : Nat) (file : File) (before : List Line) :
    List Line → Prop
  | unreadable (not : ¬ ∃ entries, Yields outside file entries) :
      Stops outside count file before before
  | refused {entries} (yields : Yields outside file entries)
      (sendable : Sendable outside count entries) :
      Stops outside count file before before
  | broken {entries} (yields : Yields outside file entries)
      (sendable : Sendable outside count entries) :
      Stops outside count file before (before ++ entryLines outside count entries)

variable {s t : System} {file : File} {count : Nat} {lines : List Line}

/-- A message that does not go out leaves everything but the notices as it is. -/
theorem sendBook_unsendable {name : Text} {entries : List Entry}
    (unsendable : ¬ Sendable outside count entries) :
    ∃ notice, s.sendBook outside name ⟨people outside count entries⟩ =
      (s.notice notice name, .ok ()) := by
  rw [sendBook]
  cases serialized : outside.serialize ⟨people outside count entries⟩ with
  | none => exact ⟨_, rfl⟩
  | some message =>
      simp only
      split
      next => exact ⟨_, rfl⟩
      next nonempty =>
        split
        next => exact ⟨_, rfl⟩
        next fits =>
          exact absurd ⟨message, serialized, nonempty, Nat.not_lt.mp fits⟩ unsendable

private theorem sendBook_sendable {name : Text} {entries : List Entry}
    (sendable : Sendable outside count entries) :
    ∃ message, outside.serialize ⟨people outside count entries⟩ = some message ∧
      s.sendBook outside name ⟨people outside count entries⟩ =
        s.call outside (message.map UInt8.toInt8) := by
  obtain ⟨message, serialized, nonempty, fits⟩ := sendable
  refine ⟨message, serialized, ?_⟩
  rw [sendBook, serialized]
  simp only
  rw [if_neg nonempty, if_neg (Nat.not_lt.mpr fits)]

private theorem readAddressBook_error {contents : Text} {exception : Exception}
    (read : readAddressBook outside (countersAt count) contents = .error exception) :
    ¬ ∃ entries, Holds outside contents entries := by
  rintro ⟨entries, holds⟩
  have returns : readAddressBook outside (countersAt count) contents = .ok _ :=
    readAddressBook_eq_ok.mpr ⟨entries, holds, rfl, rfl⟩
  rw [read] at returns
  cases returns

/-- A turn reads the entries of the file and shows them, or it ends the producer. -/
theorem sendFile_cases (roundTrips : outside.RoundTrips) (shows : s.Shows count lines)
    {result : Except Exception Unit}
    (turned : s.sendFile outside file = (t, result)) :
    (result = .ok () ∧ ∃ entries, Yields outside file entries ∧
      t.Shows (count + entries.length) (lines ++ fileLines outside count entries)) ∨
    (∃ exception, result = .error exception) ∧
      Stops outside count file lines t.log := by
  obtain ⟨counted, rfl⟩ := shows
  obtain ⟨name, contents⟩ := file
  cases contents with
  | none =>
      cases turned
      have nothing : fileLines outside count [] = [] := by
        unfold fileLines
        split <;> rfl
      refine .inl ⟨rfl, [], rfl, counted, ?_⟩
      rw [nothing, List.append_nil]
      rfl
  | some contents =>
      rw [sendFile, counted] at turned
      simp only at turned
      cases read : readAddressBook outside (countersAt count) contents with
      | error exception =>
          rw [read] at turned
          cases turned
          exact .inr ⟨⟨exception, rfl⟩, .unreadable (readAddressBook_error read)⟩
      | ok pair =>
          obtain ⟨book, last⟩ := pair
          obtain ⟨entries, holds, rfl, rfl⟩ := readAddressBook_eq_ok.mp read
          have yields : Yields outside (name, some contents) entries := holds
          rw [read] at turned
          simp only at turned
          by_cases sendable : Sendable outside count entries
          · obtain ⟨message, serialized, sent⟩ := sendBook_sendable sendable
            rw [sent, call, consume_serialized roundTrips serialized] at turned
            simp only at turned
            cases carried : outside.transport s.calls with
            | returned =>
                rw [carried] at turned
                cases turned
                refine .inl ⟨rfl, entries, yields, rfl, ?_⟩
                rw [fileLines, if_pos sendable]
            | refused what =>
                rw [carried] at turned
                cases turned
                exact .inr ⟨⟨_, rfl⟩, .refused yields sendable⟩
            | broken what =>
                rw [carried] at turned
                cases turned
                exact .inr ⟨⟨_, rfl⟩, .broken yields sendable⟩
          · obtain ⟨notice, kept⟩ := sendBook_unsendable sendable
            rw [kept] at turned
            cases turned
            refine .inl ⟨rfl, entries, yields, rfl, ?_⟩
            rw [fileLines, if_neg sendable, List.append_nil]
            rfl

/-! ## All files -/

/-- The loop reads files to the end of the list, or to one that ends the producer. -/
theorem sendFiles_cases (roundTrips : outside.RoundTrips) {files : List File}
    {result : Except Exception Unit} (shows : s.Shows count lines)
    (ran : s.sendFiles outside files = (t, result)) :
    ∃ front back read, files = front ++ back ∧
      List.Forall₂ (Yields outside) front read ∧
      (result = .ok () ∧ back = [] ∧ t.log = lines ++ shown outside count read ∨
        (∃ exception, result = .error exception) ∧ ∃ file rest, back = file :: rest ∧
          Stops outside (count + read.flatten.length) file
            (lines ++ shown outside count read) t.log) := by
  induction files generalizing s count lines with
  | nil =>
      cases ran
      refine ⟨[], [], [], rfl, .nil, .inl ⟨rfl, rfl, ?_⟩⟩
      rw [shown, List.append_nil]
      exact shows.log
  | cons file files induction =>
      rw [sendFiles] at ran
      cases turned : s.sendFile outside file with
      | mk sent outcome =>
          rw [turned] at ran
          rcases sendFile_cases roundTrips shows turned with
            ⟨rfl, entries, yields, shows⟩ | ⟨⟨exception, rfl⟩, stops⟩
          · obtain ⟨front, back, read, rfl, all, ends⟩ := induction shows ran
            refine ⟨file :: front, back, entries :: read, rfl, .cons yields all, ?_⟩
            rw [List.append_assoc, Nat.add_assoc, ← List.length_append] at ends
            exact ends
          · cases ran
            refine ⟨[], file :: files, [], rfl, .nil, .inr ⟨⟨exception, rfl⟩, ?_⟩⟩
            refine ⟨file, files, rfl, ?_⟩
            rw [shown, List.append_nil]
            exact stops

theorem shows_initial : initial.Shows 0 [] where
  counters := rfl
  log := rfl

/-- The run of both programs: of all files, or of the files up to the one that has ended
the producer, the log shows the entries of those whose books can be serialized, to one
byte at least and to as many as the interface takes at most.  The exit status says
which; whether the log shows the file that has ended the producer depends on the
transport. -/
theorem consumer_shows_entries (outside : Outside) (roundTrips : outside.RoundTrips)
    (files : List File) :
    ∃ front back read, files = front ++ back ∧
      List.Forall₂ (Yields outside) front read ∧
      ((main outside files).2 = .success ∧ back = [] ∧
          (main outside files).1.log = shown outside 0 read ∨
        (main outside files).2 = .failure ∧ ∃ file rest, back = file :: rest ∧
          ((∃ exception, outside.connect = .error exception) ∧ read = [] ∧
              (main outside files).1.log = [] ∨
            Stops outside read.flatten.length file (shown outside 0 read)
              (main outside files).1.log)) := by
  cases files with
  | nil => exact ⟨[], [], [], rfl, .nil, .inl ⟨rfl, rfl, rfl⟩⟩
  | cons first others =>
      rw [main, if_neg (List.cons_ne_nil first others)]
      cases connected : outside.connect with
      | error exception =>
          exact ⟨[], first :: others, [], rfl, .nil, .inr ⟨rfl, first, others, rfl,
            .inl ⟨⟨exception, rfl⟩, rfl, rfl⟩⟩⟩
      | ok _ =>
          cases ran : initial.sendFiles outside (first :: others) with
          | mk last result =>
              obtain ⟨front, back, read, split, all, ends⟩ :=
                sendFiles_cases roundTrips shows_initial ran
              refine ⟨front, back, read, split, all, ?_⟩
              simp only [List.nil_append, Nat.zero_add] at ends
              rcases ends with
                ⟨rfl, rfl, log⟩ | ⟨⟨exception, rfl⟩, file, rest, rfl, stops⟩
              · exact .inl ⟨rfl, rfl, log⟩
              · exact .inr ⟨rfl, file, rest, rfl, .inr stops⟩

theorem consumer_shows_sample :
    ∃ read, List.Forall₂ (Yields sampleOutside) sampleFiles read ∧
      (main sampleOutside sampleFiles).1.log = shown sampleOutside 0 read := by
  obtain ⟨front, back, read, split, all, ⟨-, rfl, log⟩ | ⟨failed, -⟩⟩ :=
    consumer_shows_entries sampleOutside sampleOutside_roundTrips sampleFiles
  · rw [List.append_nil] at split
    rw [split]
    exact ⟨read, all, split ▸ log⟩
  · exact absurd failed (by decide)

end System

/-! ## The numbers and the types in the log -/

private theorem shown_concat (start : Nat) (read : List (List Entry))
    (entries : List Entry) :
    shown outside start (read ++ [entries]) = shown outside start read ++
      fileLines outside (start + read.flatten.length) entries := by
  induction read generalizing start with
  | nil => exact List.append_nil _
  | cons first read induction =>
      rw [List.cons_append, shown, shown, induction, List.append_assoc,
        List.flatten_cons, List.length_append, Nat.add_assoc]

namespace System

/-- Also where the producer is ended, the log shows the entries of some first files. -/
theorem Stops.log_eq {file : File} {read : List (List Entry)} {log : List Line}
    (stops : Stops outside read.flatten.length file (shown outside 0 read) log) :
    log = shown outside 0 read ∨ ∃ entries, Yields outside file entries ∧
      log = shown outside 0 (read ++ [entries]) := by
  cases stops with
  | unreadable not => exact .inl rfl
  | refused yields sendable => exact .inl rfl
  | broken yields sendable =>
      refine .inr ⟨_, yields, ?_⟩
      rw [shown_concat, Nat.zero_add, fileLines, if_pos sendable]

private theorem sendFiles_log (roundTrips : outside.RoundTrips) (files : List File) :
    ∃ front read, front <+: files ∧ List.Forall₂ (Yields outside) front read ∧
      (initial.sendFiles outside files).1.log = shown outside 0 read := by
  cases ran : initial.sendFiles outside files with
  | mk last result =>
      obtain ⟨front, back, read, rfl, all, ends⟩ :=
        sendFiles_cases roundTrips shows_initial ran
      simp only [List.nil_append, Nat.zero_add] at ends
      rcases ends with ⟨-, -, log⟩ | ⟨-, file, rest, rfl, stops⟩
      · exact ⟨front, read, List.prefix_append _ _, all, log⟩
      · rcases stops.log_eq with log | ⟨entries, yields, log⟩
        · exact ⟨front, read, List.prefix_append _ _, all, log⟩
        · refine ⟨front ++ [file], read ++ [entries], ⟨rest, ?_⟩, ?_, log⟩
          · rw [List.append_assoc, List.singleton_append]
          · exact List.rel_append all (.cons yields .nil)

private theorem main_log (roundTrips : outside.RoundTrips) (files : List File) :
    ∃ front read, front <+: files ∧ List.Forall₂ (Yields outside) front read ∧
      (main outside files).1.log = shown outside 0 read := by
  unfold main
  split
  next => exact ⟨[], [], List.nil_prefix, .nil, rfl⟩
  next =>
    split
    next => exact ⟨[], [], List.nil_prefix, .nil, rfl⟩
    next =>
      obtain ⟨front, read, first, all, log⟩ := sendFiles_log roundTrips files
      refine ⟨front, read, first, all, ?_⟩
      rw [← log]
      split
      next ran => rw [ran]
      next ran => rw [ran]

end System

/-- The number of an entry. -/
def Line.personId? : Line → Option Int32
  | .personId id => some id
  | _ => none

private theorem personIds_lines (index : Nat) (entry : Entry) :
    (entry.lines outside index).filterMap Line.personId? = [Int32.ofNat index] := by
  have phones : (entry.phones.map fun phone =>
      Line.phone (shownType phone.2) phone.1).filterMap Line.personId? = [] := by
    rw [List.filterMap_map, List.filterMap_eq_nil_iff]
    intro phone _
    rfl
  have email : (if entry.email ≠ [] then [Line.email entry.email] else
      []).filterMap Line.personId? = [] := by
    split <;> rfl
  rw [Entry.lines, List.filterMap_append, List.filterMap_append,
    List.filterMap_append, phones, email]
  rfl

private theorem personIds_entryLines (start : Nat) (entries : List Entry) :
    (entryLines outside start entries).filterMap Line.personId? =
      (List.range' start entries.length).map Int32.ofNat := by
  induction entries generalizing start with
  | nil => rfl
  | cons entry entries induction =>
      rw [entryLines, List.filterMap_append, personIds_lines, induction,
        List.length_cons, List.range'_succ]
      rfl

/-- Files that are not shown leave a gap in the numbers. -/
theorem personIds_shown (start : Nat) (read : List (List Entry)) :
    ((shown outside start read).filterMap Line.personId?).Sublist
      ((List.range' start read.flatten.length).map Int32.ofNat) := by
  induction read generalizing start with
  | nil => exact List.Sublist.refl _
  | cons entries read induction =>
      have first : ((fileLines outside start entries).filterMap Line.personId?).Sublist
          ((List.range' start entries.length).map Int32.ofNat) := by
        rw [fileLines]
        split
        · rw [personIds_entryLines]
        · exact List.nil_sublist _
      rw [shown, List.filterMap_append, List.flatten_cons, List.length_append,
        ← List.range'_append_1, List.map_append]
      exact first.append (induction _)

/-- No first files hold more entries than there are identifiers. -/
def Few (outside : Outside) (files : List System.File) : Prop :=
  ∀ front read, front <+: files → List.Forall₂ (Yields outside) front read →
    read.flatten.length ≤ 2147483648

/-- A type that the consumer knows, and nothing that it could not parse. -/
def Line.IsProper : Line → Prop
  | .phone type _ => type ∈ knownTypes
  | .parseFailed => False
  | _ => True

private theorem shownType_mem (type : Text) : shownType type ∈ knownTypes := by
  unfold shownType
  split
  next known => exact known
  next => decide

private theorem Entry.lines_proper (index : Nat) (entry : Entry) :
    ∀ line ∈ entry.lines outside index, line.IsProper := by
  intro line member
  rw [Entry.lines, List.mem_append, List.mem_append, List.mem_append] at member
  rcases member with ((first | second) | third) | last
  · rcases List.mem_pair.mp first with rfl | rfl
    · trivial
    · trivial
  · split at second
    · obtain rfl := List.mem_singleton.mp second
      trivial
    · cases second
  · obtain ⟨phone, -, rfl⟩ := List.mem_map.mp third
    exact shownType_mem phone.2
  · obtain rfl := List.mem_singleton.mp last
    trivial

private theorem entryLines_proper (start : Nat) (entries : List Entry) :
    ∀ line ∈ entryLines outside start entries, line.IsProper := by
  induction entries generalizing start with
  | nil =>
      intro line impossible
      cases impossible
  | cons entry entries induction =>
      intro line member
      rcases List.mem_append.mp member with first | later
      · exact entry.lines_proper start line first
      · exact induction (start + 1) line later

private theorem shown_proper (start : Nat) (read : List (List Entry)) :
    ∀ line ∈ shown outside start read, line.IsProper := by
  induction read generalizing start with
  | nil =>
      intro line impossible
      cases impossible
  | cons entries read induction =>
      intro line member
      rcases List.mem_append.mp member with first | later
      · rw [fileLines] at first
        split at first
        · exact entryLines_proper start entries line first
        · cases first
      · exact induction _ line later

/-- Over the whole run the numbers of the persons in the log go up, so that no two
persons have the same, unless the producer's counter overflows; and the log has no phone
of an unknown type and no message that could not be parsed. -/
theorem printed_ids_increase (outside : Outside) (roundTrips : outside.RoundTrips)
    (files : List System.File) (few : Few outside files) :
    ((System.main outside files).1.log.filterMap Line.personId?).Pairwise (· < ·) ∧
      ∀ line ∈ (System.main outside files).1.log, line.IsProper := by
  obtain ⟨front, read, first, all, log⟩ := System.main_log roundTrips files
  rw [log]
  refine ⟨?_, shown_proper 0 read⟩
  apply List.Pairwise.sublist (personIds_shown 0 read)
  rw [List.pairwise_map]
  apply List.Pairwise.imp_of_mem _ List.pairwise_lt_range'
  intro left right _ member smaller
  have bound : right < 2147483648 := by
    have inside := (List.mem_range'_1.mp member).2
    have enough := few front read first all
    omega
  rw [Int32.lt_iff_toInt_lt, Int32.toInt_ofNat_of_lt (Nat.lt_trans smaller bound),
    Int32.toInt_ofNat_of_lt bound]
  exact Int.ofNat_lt.mpr smaller

private theorem yields_sample {file : System.File} {entries : List Entry}
    (yields : Yields sampleOutside file entries) : entries.length ≤ 1 := by
  obtain ⟨name, contents⟩ := file
  cases contents with
  | none =>
      obtain rfl : entries = [] := yields
      exact Nat.zero_le 1
  | some contents =>
      obtain ⟨content, book, parsed, found, all⟩ := yields
      simp only [sampleOutside] at parsed
      split at parsed
      next =>
        cases parsed
        cases found
        rw [← all.length_eq]
        exact Nat.le_refl 1
      next => cases parsed

private theorem sampleFiles_few : Few sampleOutside sampleFiles := by
  intro front read first all
  have short : read.flatten.length ≤ front.length := by
    clear first
    induction all with
    | nil => exact Nat.le_refl 0
    | cons yields _ induction =>
        have one := yields_sample yields
        rw [List.flatten_cons, List.length_append, List.length_cons]
        omega
  have two : front.length ≤ 2 := first.length_le
  omega

theorem printed_ids_sample :
    ((System.main sampleOutside sampleFiles).1.log.filterMap
        Line.personId?).Pairwise (· < ·) ∧
      (System.main sampleOutside sampleFiles).1.log ≠ [] :=
  ⟨(printed_ids_increase sampleOutside sampleOutside_roundTrips sampleFiles
    sampleFiles_few).1, by decide⟩

end KosCeExtra.Protobuf
