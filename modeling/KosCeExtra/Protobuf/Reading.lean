import Mathlib.Data.List.Forall2
import KosCeExtra.Protobuf.AddressBook

/-!
# What a file of an address book says

A JSON value holds an entry if the members that are there have the right form; the
others count as empty.  `ReadAddressBook` returns exactly for files that hold a list of
entries, and what it returns are these entries, numbered on from the file before.
-/

namespace KosCeExtra.Protobuf

/-- An entry of an address book, with the numbers and the types of its phones as the
file has them. -/
structure Entry where
  name : Text
  email : Text
  phones : List (Text × Text)
  deriving DecidableEq, Repr

namespace Json

/-- The member of an object, where a missing one counts as empty. -/
def HasText (json : Json) (key text : Text) : Prop :=
  ∃ members, json = .object members ∧
    (members.lookup key = some (.string text) ∨
      members.lookup key = none ∧ text = [])

structure IsPhone (json : Json) (phone : Text × Text) : Prop where
  number : json.HasText "number".toList phone.1
  type : json.HasText "type".toList phone.2

structure IsEntry (json : Json) (entry : Entry) : Prop where
  name : json.HasText "name".toList entry.name
  email : json.HasText "email".toList entry.email
  phones : List.Forall₂ IsPhone (json.listed "phones".toList) entry.phones

end Json

/-- The file holds the entries. -/
def Holds (outside : Outside) (file : Text) (entries : List Entry) : Prop :=
  ∃ content book, outside.parseJson file = .ok content ∧
    content.member "addressBook".toList = .ok book ∧
    List.Forall₂ Json.IsEntry book.elements entries

theorem Json.value_eq_ok {json : Json} {key text : Text} :
    json.value key = .ok text ↔ json.HasText key text := by
  constructor
  · intro read
    unfold Json.value at read
    split at read
    next members =>
      refine ⟨members, rfl, ?_⟩
      split at read
      next missing =>
        cases read
        exact .inr ⟨missing, rfl⟩
      next found =>
        cases read
        exact .inl found
      next => cases read
    next => cases read
  · rintro ⟨members, rfl, found | ⟨missing, rfl⟩⟩
    · simp only [Json.value, found]
    · simp only [Json.value, missing]

section Except

variable {ε α β : Type}

theorem bind_eq_ok {first : Except ε α} {next : α → Except ε β} {result : β} :
    first >>= next = .ok result ↔
      ∃ middle, first = .ok middle ∧ next middle = .ok result := by
  cases first with
  | error error =>
      constructor
      · intro impossible
        cases impossible
      · rintro ⟨_, impossible, -⟩
        cases impossible
  | ok middle =>
      constructor
      · intro continued
        exact ⟨middle, rfl, continued⟩
      · rintro ⟨_, same, continued⟩
        cases same
        exact continued

/-- A loop returns where each of its turns does. -/
theorem mapM_eq_ok {body : α → Except ε β} {items : List α} {results : List β} :
    items.mapM body = .ok results ↔
      List.Forall₂ (fun item result => body item = .ok result) items results := by
  induction items generalizing results with
  | nil =>
      rw [List.forall₂_nil_left_iff, List.mapM_nil]
      constructor
      · intro same
        cases same
        rfl
      · rintro rfl
        rfl
  | cons item items induction =>
      rw [List.mapM_cons, bind_eq_ok, List.forall₂_cons_left_iff]
      constructor
      · rintro ⟨result, turned, rest⟩
        obtain ⟨more, continued, same⟩ := bind_eq_ok.mp rest
        cases same
        exact ⟨result, more, turned, induction.mp continued, rfl⟩
      · rintro ⟨result, more, turned, continued, rfl⟩
        exact ⟨result, turned, bind_eq_ok.mpr ⟨more, induction.mpr continued, rfl⟩⟩

end Except

/-! ## Phones -/

/-- What becomes of a phone of the file. -/
def phoneOf (phone : Text × Text) : PhoneNumber :=
  ⟨phone.1, (phoneTypes.lookup phone.2).getD mobile⟩

private theorem readPhone_eq_ok {json : Json} {phone : PhoneNumber} :
    readPhone json = .ok phone ↔
      ∃ said, json.IsPhone said ∧ phoneOf said = phone := by
  rw [readPhone, bind_eq_ok]
  constructor
  · rintro ⟨number, numberRead, rest⟩
    obtain ⟨type, typeRead, same⟩ := bind_eq_ok.mp rest
    cases same
    exact ⟨(number, type),
      ⟨Json.value_eq_ok.mp numberRead, Json.value_eq_ok.mp typeRead⟩, rfl⟩
  · rintro ⟨⟨number, type⟩, said, rfl⟩
    exact ⟨number, Json.value_eq_ok.mpr said.number,
      bind_eq_ok.mpr ⟨type, Json.value_eq_ok.mpr said.type, rfl⟩⟩

private theorem readPhones_eq_ok {items : List Json} {phones : List PhoneNumber} :
    items.mapM readPhone = .ok phones ↔
      ∃ said, List.Forall₂ Json.IsPhone items said ∧ said.map phoneOf = phones := by
  rw [mapM_eq_ok]
  constructor
  · intro read
    induction read with
    | nil => exact ⟨[], .nil, rfl⟩
    | cons first _ induction =>
        obtain ⟨phone, said, rfl⟩ := readPhone_eq_ok.mp first
        obtain ⟨more, all, rfl⟩ := induction
        exact ⟨phone :: more, .cons said all, rfl⟩
  · rintro ⟨said, all, rfl⟩
    induction all with
    | nil => exact .nil
    | cons first _ induction =>
        exact .cons (readPhone_eq_ok.mpr ⟨_, first, rfl⟩) induction

/-! ## Persons -/

/-- What becomes of the `index`-th entry of all the files that are read. -/
def Entry.person (outside : Outside) (index : Nat) (entry : Entry) : Person where
  name := entry.name
  id := Int32.ofNat index
  email := entry.email
  phones := entry.phones.map phoneOf
  lastUpdated := some (secondsToTimestamp (outside.time index))

def people (outside : Outside) : Nat → List Entry → List Person
  | _, [] => []
  | start, entry :: entries =>
      entry.person outside start :: people outside (start + 1) entries

/-- The counters behind so many entries. -/
def countersAt (count : Nat) : Counters :=
  ⟨Int32.ofNat count, count⟩

private theorem countersAt_next (count : Nat) :
    (countersAt count).next = countersAt (count + 1) := by
  rw [Counters.next, countersAt, countersAt, Int32.ofNat_add]
  rfl

variable {outside : Outside}

private theorem readPerson_eq_ok {json : Json} {index : Nat} {person : Person} :
    readPerson (Int32.ofNat index) (outside.time index) json = .ok person ↔
      ∃ entry, json.IsEntry entry ∧ entry.person outside index = person := by
  rw [readPerson, bind_eq_ok]
  constructor
  · rintro ⟨name, nameRead, rest⟩
    obtain ⟨email, emailRead, rest⟩ := bind_eq_ok.mp rest
    obtain ⟨phones, phonesRead, same⟩ := bind_eq_ok.mp rest
    obtain ⟨said, all, rfl⟩ := readPhones_eq_ok.mp phonesRead
    cases same
    exact ⟨⟨name, email, said⟩,
      ⟨Json.value_eq_ok.mp nameRead, Json.value_eq_ok.mp emailRead, all⟩, rfl⟩
  · rintro ⟨entry, said, rfl⟩
    refine ⟨entry.name, Json.value_eq_ok.mpr said.name, bind_eq_ok.mpr
      ⟨entry.email, Json.value_eq_ok.mpr said.email, bind_eq_ok.mpr ?_⟩⟩
    exact ⟨entry.phones.map phoneOf,
      readPhones_eq_ok.mpr ⟨entry.phones, said.phones, rfl⟩, rfl⟩

private theorem readPeople_eq_ok {items : List Json} {start : Nat} {read : List Person}
    {last : Counters} :
    readPeople outside (countersAt start) items = .ok (read, last) ↔
      ∃ entries, List.Forall₂ Json.IsEntry items entries ∧
        people outside start entries = read ∧
        countersAt (start + entries.length) = last := by
  induction items generalizing start read last with
  | nil =>
      simp only [readPeople, List.forall₂_nil_left_iff]
      constructor
      · intro same
        cases same
        exact ⟨[], rfl, rfl, rfl⟩
      · rintro ⟨_, rfl, rfl, rfl⟩
        rfl
  | cons item items induction =>
      rw [readPeople, bind_eq_ok]
      constructor
      · rintro ⟨person, personRead, rest⟩
        obtain ⟨⟨more, after⟩, moreRead, same⟩ := bind_eq_ok.mp rest
        cases same
        obtain ⟨entry, said, rfl⟩ := readPerson_eq_ok.mp personRead
        rw [countersAt_next] at moreRead
        obtain ⟨entries, all, rfl, rfl⟩ := induction.mp moreRead
        refine ⟨entry :: entries, .cons said all, rfl, ?_⟩
        rw [List.length_cons, Nat.add_right_comm, Nat.add_assoc]
      · rintro ⟨_, all, rfl, rfl⟩
        obtain ⟨entry, entries, said, rest, rfl⟩ := List.forall₂_cons_left_iff.mp all
        refine ⟨entry.person outside start, readPerson_eq_ok.mpr ⟨entry, said, rfl⟩,
          bind_eq_ok.mpr ⟨(people outside (start + 1) entries,
            countersAt (start + 1 + entries.length)), ?_, ?_⟩⟩
        · rw [countersAt_next]
          exact induction.mpr ⟨entries, rest, rfl, rfl⟩
        · rw [List.length_cons, Nat.add_right_comm, Nat.add_assoc]
          rfl

theorem readAddressBook_eq_ok {start : Nat} {file : Text} {book : AddressBook}
    {last : Counters} :
    readAddressBook outside (countersAt start) file = .ok (book, last) ↔
      ∃ entries, Holds outside file entries ∧ ⟨people outside start entries⟩ = book ∧
        countersAt (start + entries.length) = last := by
  rw [readAddressBook, bind_eq_ok]
  constructor
  · rintro ⟨content, parsed, rest⟩
    obtain ⟨elements, found, rest⟩ := bind_eq_ok.mp rest
    obtain ⟨⟨read, after⟩, peopleRead, same⟩ := bind_eq_ok.mp rest
    cases same
    obtain ⟨entries, all, rfl, rfl⟩ := readPeople_eq_ok.mp peopleRead
    exact ⟨entries, ⟨content, elements, parsed, found, all⟩, rfl, rfl⟩
  · rintro ⟨entries, ⟨content, elements, parsed, found, all⟩, rfl, rfl⟩
    exact ⟨content, parsed, bind_eq_ok.mpr ⟨elements, found, bind_eq_ok.mpr
      ⟨_, readPeople_eq_ok.mpr ⟨entries, all, rfl, rfl⟩, rfl⟩⟩⟩

end KosCeExtra.Protobuf
