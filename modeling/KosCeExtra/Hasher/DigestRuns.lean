import KosCeExtra.Hasher.Digest

/-!
# What a digest stands for

A digest goes through two stages: it takes in a message piece by piece, and from
the first `Get` on it stands for the message it had then.  The stages say nothing
about pieces, so how a message was cut cannot be seen in what `Get` returns.
-/

namespace KosCeExtra.Hasher

/-- The bytes that an operation hands over. -/
def Operation.piece : Operation → Data
  | .update none => []
  | .update (some data) => data
  | .shiftLvalue data => data
  | .shiftRvalue data => data
  | .get => []

/-- The pieces before the first `Get`, put together. -/
def fedBeforeGet (operations : List Operation) : Data :=
  ((operations.takeWhile (· ≠ .get)).map Operation.piece).flatten

/-- The message of a digest that is taking it in, or has finished with it. -/
inductive Stage where
  | absorbing (message : Data)
  | finished (message : Data)

namespace Stage

def message : Stage → Data
  | .absorbing message => message
  | .finished message => message

/-- The stage after an operation. -/
def after : Stage → Operation → Stage
  | .absorbing message, .get => .finished message
  | .absorbing message, operation => .absorbing (message ++ operation.piece)
  | .finished message, _ => .finished message

/-- The message that the digest will have been finished with. -/
def frozen : Stage → List Operation → Data
  | .absorbing message, operations => message ++ fedBeforeGet operations
  | .finished message, _ => message

theorem after_absorbing (message : Data) {operation : Operation}
    (other : operation ≠ .get) :
    (absorbing message).after operation =
      .absorbing (message ++ operation.piece) := by
  cases operation with
  | get => exact absurd rfl other
  | update data => rfl
  | shiftLvalue data => rfl
  | shiftRvalue data => rfl

private theorem frozen_cons (stage : Stage) (operation : Operation)
    (operations : List Operation) :
    stage.frozen (operation :: operations) =
      (stage.after operation).frozen operations := by
  cases stage with
  | finished message => rfl
  | absorbing message =>
      by_cases last : operation = .get
      · subst last
        simp [frozen, after, fedBeforeGet]
      · simp [after_absorbing message last, frozen, fedBeforeGet, last]

/-- A digest that has been asked for its value is finished. -/
theorem foldl_after_get {operations : List Operation}
    (asked : .get ∈ operations) (stage : Stage) :
    ∃ message, operations.foldl after stage = .finished message := by
  have stays : ∀ (rest : List Operation) (message : Data),
      rest.foldl after (.finished message) = .finished message := by
    intro rest message
    induction rest with
    | nil => rfl
    | cons operation rest induction => exact induction
  obtain ⟨before, rest, rfl⟩ := List.append_of_mem asked
  have stopped : ∃ message, (before.foldl after stage).after .get =
      .finished message := by
    cases before.foldl after stage with
    | absorbing message => exact ⟨message, rfl⟩
    | finished message => exact ⟨message, rfl⟩
  obtain ⟨message, same⟩ := stopped
  refine ⟨message, ?_⟩
  rw [List.foldl_append, List.foldl_cons, same]
  exact stays rest message

end Stage

variable {Algorithm Context : Type} {evp : Evp Algorithm Context}
  {hash : Data → Data}

/-- Behind the start, the library computes `hash` of the updates as one message. -/
def Evp.Computes (evp : Evp Algorithm Context) (md : Algorithm)
    (hash : Data → Data) : Prop :=
  ∀ context, evp.digestInit md = some context → ∀ pieces : List Data,
    evp.digestFinal (pieces.foldl evp.digestUpdate context) =
      hash pieces.flatten

/-- The digest stands for a message: its context has been updated with it, or its
value is the hash of it. -/
def Digest.StandsFor (digest : Digest Context) (evp : Evp Algorithm Context)
    (start : Context) (hash : Data → Data) : Stage → Prop
  | .absorbing message => ∃ pieces : List Data, pieces.flatten = message ∧
      digest.context = some (pieces.foldl evp.digestUpdate start) ∧
      digest.value.length = evpMaxMdSize
  | .finished message => digest.context = none ∧ digest.value = hash message

section Steps

variable {digest : Digest Context} {start : Context} {stage : Stage}

private theorem resize_stored {value buffer : Data}
    (fits : value.length ≤ buffer.length) :
    ∃ stored, storeDigest value buffer = .ok stored ∧
      resize stored value.length = value := by
  refine ⟨_, if_pos fits, ?_⟩
  simp [resize]

private theorem update_bytes (evp : Evp Algorithm Context) {context : Context}
    (live : digest.context = some context) {bytes : Data}
    (nonempty : bytes ≠ []) :
    digest.update evp (some bytes) =
      { digest with context := some (evp.digestUpdate context bytes) } := by
  simp [Digest.update, live, nonempty]

theorem update_empty (evp : Evp Algorithm Context) (digest : Digest Context) :
    digest.update evp (some []) = digest := by
  cases live : digest.context with
  | none => simp [Digest.update, live]
  | some context => simp [Digest.update, live]

private theorem update_null (evp : Evp Algorithm Context) (digest : Digest Context) :
    digest.update evp none = digest := by
  simp [Digest.update]

theorem update_finished (evp : Evp Algorithm Context)
    (dead : digest.context = none) (data : Option Data) :
    digest.update evp data = digest := by
  simp [Digest.update, dead]

/-- The check of the operators is the one that `Update` makes again. -/
theorem shift_eq_update (evp : Evp Algorithm Context) (digest : Digest Context)
    (data : Data) : digest.shift evp data = digest.update evp (some data) := by
  by_cases empty : data = []
  · subst empty
    rw [update_empty]
    simp [Digest.shift]
  · cases live : digest.context with
    | none =>
        rw [update_finished evp live]
        simp [Digest.shift, live]
    | some context => simp [Digest.shift, live, empty]

/-- Every operation but `Get` is an update with its piece. -/
theorem step_eq_update (evp : Evp Algorithm Context) (digest : Digest Context)
    {operation : Operation} (other : operation ≠ .get) :
    step evp digest operation =
      .ok ([], digest.update evp (some operation.piece)) := by
  cases operation with
  | get => exact absurd rfl other
  | update data =>
      cases data with
      | none =>
          rw [step, update_null, Operation.piece, update_empty]
      | some bytes => rfl
  | shiftLvalue data =>
      rw [step, Digest.shiftLvalue, shift_eq_update]
      rfl
  | shiftRvalue data =>
      rw [step, Digest.shiftRvalue, shift_eq_update]
      rfl

theorem standsFor_update {message : Data}
    (stands : digest.StandsFor evp start hash (.absorbing message))
    (data : Data) :
    (digest.update evp (some data)).StandsFor evp start hash
      (.absorbing (message ++ data)) := by
  obtain ⟨pieces, joined, live, size⟩ := stands
  by_cases empty : data = []
  · subst empty
    rw [update_empty, List.append_nil]
    exact ⟨pieces, joined, live, size⟩
  · rw [update_bytes evp live empty]
    refine ⟨pieces ++ [data], ?_, ?_, size⟩
    · simp [joined]
    · simp

/-- The value that `Get` finishes a digest with is the hash of its message. -/
theorem get_absorbing
    (computes : ∀ pieces : List Data,
      evp.digestFinal (pieces.foldl evp.digestUpdate start) =
        hash pieces.flatten)
    {message : Data}
    (stands : digest.StandsFor evp start hash (.absorbing message)) :
    ∃ next, digest.get evp = .ok (hash message, next) ∧
      next.StandsFor evp start hash (.finished message) := by
  obtain ⟨pieces, joined, live, size⟩ := stands
  have final := computes pieces
  rw [joined] at final
  have fits : (hash message).length ≤ digest.value.length := by
    rw [← final, size]
    exact evp.digestFits _
  obtain ⟨stored, put, resized⟩ := resize_stored fits
  refine ⟨{ digest with context := none, value := hash message }, ?_, rfl, rfl⟩
  simp only [Digest.get, live, final, put, resized]

private theorem get_finished {message : Data}
    (stands : digest.StandsFor evp start hash (.finished message)) :
    digest.get evp = .ok (hash message, digest) := by
  obtain ⟨dead, value⟩ := stands
  simp only [Digest.get, dead, value]

/-- Every operation follows the stages, and `Get` returns the hash of the message. -/
theorem step_follows
    (computes : ∀ pieces : List Data,
      evp.digestFinal (pieces.foldl evp.digestUpdate start) =
        hash pieces.flatten)
    (stands : digest.StandsFor evp start hash stage) (operation : Operation) :
    ∃ next, step evp digest operation =
        .ok (if operation = .get then [hash stage.message] else [], next) ∧
      next.StandsFor evp start hash (stage.after operation) := by
  by_cases asked : operation = .get
  · subst asked
    cases stage with
    | absorbing message =>
        obtain ⟨next, got, finished⟩ := get_absorbing computes stands
        refine ⟨next, ?_, finished⟩
        simp [step, got, Stage.message]
    | finished message =>
        refine ⟨digest, ?_, stands⟩
        simp [step, get_finished stands, Stage.message]
  · rw [step_eq_update evp digest asked, if_neg asked]
    refine ⟨_, rfl, ?_⟩
    cases stage with
    | absorbing message =>
        rw [Stage.after_absorbing message asked]
        exact standsFor_update stands operation.piece
    | finished message =>
        rw [update_finished evp stands.1]
        exact stands

/-- A run returns the hash of one message, once for each `Get`. -/
theorem run_follows
    (computes : ∀ pieces : List Data,
      evp.digestFinal (pieces.foldl evp.digestUpdate start) =
        hash pieces.flatten)
    (stands : digest.StandsFor evp start hash stage)
    (operations : List Operation) :
    ∃ last, run evp digest operations =
        .ok (List.replicate (operations.count .get)
          (hash (stage.frozen operations)), last) ∧
      last.StandsFor evp start hash (operations.foldl Stage.after stage) := by
  induction operations generalizing digest stage with
  | nil => exact ⟨digest, rfl, stands⟩
  | cons operation operations induction =>
      obtain ⟨next, stepped, followed⟩ :=
        step_follows computes stands operation
      obtain ⟨last, ran, ended⟩ := induction followed
      refine ⟨last, ?_, ended⟩
      simp only [run, stepped, ran, stage.frozen_cons]
      by_cases asked : operation = .get
      · subst asked
        have message : (stage.after .get).frozen operations =
            stage.message := by
          cases stage with
          | absorbing message => rfl
          | finished message => rfl
        simp [message, List.replicate_succ]
      · simp [asked]

theorem run_append {first second : List Operation} {returned : List Data}
    {middle : Digest Context}
    (ran : run evp digest first = .ok (returned, middle)) :
    run evp digest (first ++ second) =
      match run evp middle second with
      | .error fault => .error fault
      | .ok (later, last) => .ok (returned ++ later, last) := by
  induction first generalizing digest returned with
  | nil =>
      cases ran
      rw [List.nil_append]
      cases run evp middle second with
      | error fault => rfl
      | ok result => rfl
  | cons operation first induction =>
      simp only [List.cons_append, run] at ran ⊢
      cases stepped : step evp digest operation with
      | error fault =>
          simp only [stepped] at ran
          cases ran
      | ok result =>
          simp only [stepped] at ran ⊢
          cases rest : run evp result.2 first with
          | error fault =>
              simp only [rest] at ran
              cases ran
          | ok later =>
              simp only [rest] at ran
              cases ran
              rw [induction rest]
              cases run evp later.2 second with
              | error fault => rfl
              | ok last => simp

/-- A finished digest takes nothing in. -/
theorem run_finished (dead : digest.context = none) {later : List Operation}
    (quiet : .get ∉ later) : run evp digest later = .ok ([], digest) := by
  induction later with
  | nil => rfl
  | cons operation later induction =>
      have other : operation ≠ .get := by
        intro same
        apply quiet
        rw [same]
        exact List.mem_cons_self
      have rest : .get ∉ later := by
        intro member
        exact quiet (List.mem_cons_of_mem operation member)
      simp only [run, step_eq_update evp digest other,
        update_finished evp dead, induction rest]
      rfl

theorem standsFor_construct (hash : Data → Data) {name : Text}
    (constructed : Digest.construct evp name = .ok digest) :
    ∃ md start, evp.getDigestByName (cStr name) = some md ∧
      evp.digestInit md = some start ∧
      digest.StandsFor evp start hash (.absorbing []) := by
  unfold Digest.construct at constructed
  cases known : evp.getDigestByName (cStr name) with
  | none =>
      simp only [known] at constructed
      cases constructed
  | some md =>
      cases started : evp.digestInit md with
      | none =>
          simp only [known, started] at constructed
          cases constructed
      | some start =>
          simp only [known, started] at constructed
          cases constructed
          refine ⟨md, start, rfl, started, [], rfl, rfl, ?_⟩
          exact List.length_replicate

/-- The parts of a message, fed one behind the other. -/
theorem standsFor_parts (parts : List Data) {message : Data}
    (stands : digest.StandsFor evp start hash (.absorbing message)) :
    (parts.foldl (Digest.shiftRvalue evp) digest).StandsFor evp start hash
      (.absorbing (message ++ parts.flatten)) := by
  induction parts generalizing digest message with
  | nil => simpa using stands
  | cons part parts induction =>
      have fed := standsFor_update stands part
      rw [← shift_eq_update] at fed
      rw [List.foldl_cons, List.flatten_cons, ← List.append_assoc]
      exact induction fed

end Steps

private theorem name_update (evp : Evp Algorithm Context) (digest : Digest Context)
    (data : Option Data) : (digest.update evp data).name = digest.name := by
  unfold Digest.update
  split
  · split
    · rfl
    · rfl
  · rfl

private theorem name_parts (evp : Evp Algorithm Context) (parts : List Data)
    (digest : Digest Context) :
    (parts.foldl (Digest.shiftRvalue evp) digest).name = digest.name := by
  induction parts generalizing digest with
  | nil => rfl
  | cons part parts induction =>
      rw [List.foldl_cons, induction, Digest.shiftRvalue, shift_eq_update,
        name_update]

/-- The text of a known algorithm shows the hash of the parts as one message. -/
theorem printMessageDigest_hash (evp : Evp Algorithm Context)
    (hash : Data → Data) {name : Text}
    (computes : ∀ md, evp.getDigestByName (cStr name) = some md →
      evp.Computes md hash)
    {digest : Digest Context}
    (constructed : Digest.construct evp name = .ok digest)
    (parts : List Data) :
    printMessageDigest evp name parts =
      .ok (messageDigestText digest.name parts (hash parts.flatten)) := by
  obtain ⟨md, start, known, started, stands⟩ :=
    standsFor_construct hash constructed
  obtain ⟨_, got, -⟩ := get_absorbing (computes md known start started)
    (standsFor_parts parts stands)
  simp only [printMessageDigest, constructed, got, name_parts, List.nil_append]

/-- Every `Get` of a digest returns the hash of the pieces before the first one, put
together.  Pieces behind a `Get` change neither what is returned nor the digest, and
what is returned does not depend on how the message was cut. -/
theorem digest_frozen_by_get (evp : Evp Algorithm Context)
    (hash : Data → Data) (name : Text)
    (computes : ∀ md, evp.getDigestByName (cStr name) = some md →
      evp.Computes md hash)
    (digest : Digest Context)
    (constructed : Digest.construct evp name = .ok digest)
    (operations : List Operation) :
    (∃ last, run evp digest operations =
      .ok (List.replicate (operations.count .get)
        (hash (fedBeforeGet operations)), last)) ∧
    (.get ∈ operations → ∀ later, .get ∉ later →
      run evp digest (operations ++ later) = run evp digest operations) ∧
    ∀ others returned returned' last last',
      run evp digest operations = .ok (returned, last) →
      run evp digest others = .ok (returned', last') →
      fedBeforeGet operations = fedBeforeGet others →
      ∀ value ∈ returned, ∀ value' ∈ returned', value = value' := by
  obtain ⟨md, start, known, started, stands⟩ :=
    standsFor_construct hash constructed
  have sums := computes md known start started
  have runs : ∀ some, ∃ last, run evp digest some =
        .ok (List.replicate (some.count .get) (hash (fedBeforeGet some)), last) ∧
      last.StandsFor evp start hash (some.foldl Stage.after (.absorbing [])) :=
    fun some => run_follows sums stands some
  refine ⟨?_, ?_, ?_⟩
  · obtain ⟨last, ran, -⟩ := runs operations
    exact ⟨last, ran⟩
  · intro asked later quiet
    obtain ⟨last, ran, stood⟩ := runs operations
    obtain ⟨message, done⟩ := Stage.foldl_after_get asked (.absorbing [])
    rw [done] at stood
    rw [run_append ran, run_finished stood.1 quiet, ran]
    simp
  · intro others returned returned' last last' ran ran' same
    obtain ⟨_, runs₁, -⟩ := runs operations
    obtain ⟨_, runs₂, -⟩ := runs others
    rw [runs₁] at ran
    rw [runs₂] at ran'
    cases ran
    cases ran'
    intro value member value' member'
    calc
      value = hash (fedBeforeGet operations) := List.eq_of_mem_replicate member
      _ = hash (fedBeforeGet others) := by rw [same]
      _ = value' := (List.eq_of_mem_replicate member').symm

def bytesOf (text : Text) : Data :=
  text.map fun char => char.toNat.toUInt8

/-- The digest that the documentation of the program shows. -/
def shownDigest : Data :=
  [0xcb, 0x8f, 0x0c, 0x11, 0x40, 0x1b, 0x96, 0x20,
    0x9b, 0xa9, 0x15, 0x1f, 0x6e, 0xec, 0x44, 0x27,
    0x12, 0x50, 0x20, 0x67, 0x28, 0x77, 0x74, 0xca,
    0x2e, 0x61, 0x43, 0x7b, 0x3f, 0xee, 0xf2, 0xeb]

/-- SHA-256 at the message of the program, and zeros at every other. -/
def shownHash (message : Data) : Data :=
  if message = bytesOf "TestMessageHelloWorld".toList then shownDigest
  else List.replicate 32 0

/-- A library with one algorithm, which keeps the message in its context. -/
def shownEvp : Evp Unit Data where
  getDigestByName name := if name = "sha256".toList then some () else none
  digestInit _ := some []
  digestUpdate message data := message ++ data
  digestFinal := shownHash
  digestFits message := by
    unfold shownHash
    split
    · decide
    · decide

private theorem shownEvp_computes : shownEvp.Computes () shownHash := by
  intro context started pieces
  cases started
  have joined : ∀ message : Data,
      pieces.foldl shownEvp.digestUpdate message = message ++ pieces.flatten := by
    intro message
    induction pieces generalizing message with
    | nil => simp
    | cons piece pieces induction =>
        rw [List.foldl_cons, induction, List.flatten_cons]
        exact List.append_assoc message piece pieces.flatten
  rw [joined, List.nil_append]
  rfl

/-- The message of the program in four pieces, with a late piece and a second `Get`. -/
theorem shown_digest_frozen :
    ∃ last, run shownEvp
        { name := "sha256".toList
          context := some []
          value := List.replicate evpMaxMdSize 0 }
        [.shiftRvalue (bytesOf "Test".toList),
          .shiftRvalue (bytesOf "Message".toList), .update none,
          .shiftLvalue [], .shiftRvalue (bytesOf "Hello".toList),
          .update (some (bytesOf "World".toList)), .get,
          .update (some (bytesOf "Late".toList)), .get] =
      .ok ([shownDigest, shownDigest], last) := by
  have frozen := digest_frozen_by_get shownEvp shownHash "sha256".toList
    (fun _ _ => shownEvp_computes) _ rfl
  exact (frozen _).1

end KosCeExtra.Hasher
