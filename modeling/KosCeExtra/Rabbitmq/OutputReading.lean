import KosCeExtra.Library.Separated
import KosCeExtra.Rabbitmq.Deliveries
import KosCeExtra.Rabbitmq.DumpReading

/-!
# Reading the consumer's output back

The output is one stream of characters, cut into lines at the line feeds.  In it a
message begins at the line of its delivery, and its dump behind the line of dashes; so
the bodies can be read back from the stream, where their dumps can.  The names that a
message carries are printed as they are, and a line feed in one of them would begin a
line of its own.
-/

namespace KosCeExtra.Rabbitmq.Consumer

open Dialogue

def isDeliveryLine (line : Text) : Bool :=
  "Delivery ".toList.isPrefixOf line

/-- The body that the lines behind the line of its delivery show. -/
def readBody (block : List Text) : Option (List UInt8) :=
  readDump (block.dropWhile (· ≠ "----".toList)).tail

def readBodies (lines : List Text) : Option (List (List UInt8)) :=
  (lines.splitOnP isDeliveryLine).tail.mapM readBody

/-- What a run has written to `std::cout`, where every line is ended by `std::endl`. -/
def output (record : List (Exchange Call Reply)) : Text :=
  (printed record).flatMap (· ++ ['\n'])

/-- The lines of the output; behind the last line feed there is none. -/
def outputLines (output : Text) : List Text :=
  (output.splitOn '\n').dropLast

def readOutput (output : Text) : Option (List (List UInt8)) :=
  readBodies (outputLines output)

/-- The line that a delivered message begins with. -/
def deliveryLine (envelope : Envelope) : Text :=
  "Delivery ".toList ++ (toString envelope.deliveryTag).toList ++
    ", exchange: ".toList ++ envelope.exchange ++ ", routingkey: ".toList ++
    envelope.routingKey

/-- The lines behind it. -/
def envelopeBlock (envelope : Envelope) : List Text :=
  (match envelope.contentType with
    | some contentType => ["Content-type: ".toList ++ contentType]
    | none => []) ++
  "----".toList :: amqpDump envelope.body

theorem envelopeLines_eq (envelope : Envelope) :
    envelopeLines envelope = deliveryLine envelope :: envelopeBlock envelope :=
  rfl

private theorem isDeliveryLine_deliveryLine (envelope : Envelope) :
    isDeliveryLine (deliveryLine envelope) = true :=
  rfl

private theorem isDeliveryLine_cons {first : Char} (other : first ≠ 'D') (rest : Text) :
    isDeliveryLine (first :: rest) = false := by
  have letters : "Delivery ".toList = 'D' :: "elivery ".toList := rfl
  rw [isDeliveryLine, letters, List.isPrefixOf, beq_false_of_ne other.symm,
    Bool.false_and]

private theorem isDeliveryLine_dumpRow (offset : Nat) (chs : List UInt8) :
    isDeliveryLine (dumpRow offset chs) = false := by
  cases field : hexField 8 offset with
  | nil =>
      have long := congrArg List.length field
      rw [hexField, List.length_append, List.length_replicate,
        List.length_nil] at long
      omega
  | cons first rest =>
      rw [dumpRow, field, List.cons_append]
      apply isDeliveryLine_cons
      -- the line begins with a digit
      rintro rfl
      apply not_mem_hexField (rfl : hexValue 'D' = none) 8 offset
      rw [field]
      exact List.mem_cons_self

private theorem mem_shownRows_cases {buf : List UInt8} {k : Nat} {line : Text}
    (member : line ∈ (shownRows buf k).1) :
    line = dotsLine ∨ ∃ offset chs, line = dumpRow offset chs := by
  induction k with
  | zero => cases member
  | succ k induction =>
      rw [shownRows] at member
      split at member
      · simp only at member
        split at member
        · rcases List.mem_append.mp member with before | dots
          · exact induction before
          · exact .inl (List.mem_singleton.mp dots)
        · exact induction member
      · rcases List.mem_append.mp member with before | row
        · exact induction before
        · exact .inr ⟨_, _, List.mem_singleton.mp row⟩

theorem mem_amqpDump_cases {buf : List UInt8} {line : Text}
    (member : line ∈ amqpDump buf) :
    line = dotsLine ∨ ∃ offset chs, line = dumpRow offset chs := by
  rw [amqpDump_eq, List.mem_append, List.mem_append, List.mem_singleton] at member
  rcases member with (shown | last) | length
  · exact mem_shownRows_cases shown
  · exact .inr ⟨_, _, last⟩
  · split at length
    · cases length
    · exact .inr ⟨_, _, List.mem_singleton.mp length⟩

private theorem not_isDeliveryLine_of_mem {envelope : Envelope} {line : Text}
    (member : line ∈ envelopeBlock envelope) : isDeliveryLine line = false := by
  rcases List.mem_append.mp member with content | behind
  · split at content
    · rw [List.mem_singleton.mp content]
      rfl
    · cases content
  · rcases List.mem_cons.mp behind with rfl | dump
    · rfl
    · rcases mem_amqpDump_cases dump with rfl | ⟨offset, chs, rfl⟩
      · rfl
      · exact isDeliveryLine_dumpRow offset chs

/-- Cut at the lines of the deliveries, the output falls into what is behind them. -/
theorem splitOnP_envelopeLines (front : List Text)
    (free : ∀ line ∈ front, isDeliveryLine line = false) (envelopes : List Envelope) :
    (front ++ envelopes.flatMap envelopeLines).splitOnP isDeliveryLine =
      front :: envelopes.map envelopeBlock := by
  induction envelopes generalizing front with
  | nil =>
      rw [List.flatMap_nil, List.append_nil, List.map_nil]
      exact List.splitOnP_eq_singleton free
  | cons envelope envelopes induction =>
      rw [List.flatMap_cons, envelopeLines_eq, List.cons_append,
        List.splitOnP_append_cons_of_forall_mem free _
          (isDeliveryLine_deliveryLine envelope),
        induction _ fun line => not_isDeliveryLine_of_mem, List.map_cons]

private theorem readBody_envelopeBlock (envelope : Envelope) :
    readBody (envelopeBlock envelope) = readDump (amqpDump envelope.body) := by
  unfold readBody envelopeBlock
  split <;> rfl

private theorem mapM_readBody {envelopes : List Envelope}
    (readable : ∀ envelope ∈ envelopes,
      readDump (amqpDump envelope.body) = some envelope.body) :
    (envelopes.map envelopeBlock).mapM readBody =
      some (envelopes.map Envelope.body) := by
  induction envelopes with
  | nil => rfl
  | cons envelope envelopes induction =>
      rw [List.map_cons, List.mapM_cons, readBody_envelopeBlock,
        readable envelope List.mem_cons_self,
        induction fun later member => readable later (List.mem_cons_of_mem _ member)]
      rfl

/-! ## The lines in the stream -/

theorem lineFeed_not_mem_middle (i : Nat) : '\n' ∉ middle i := by
  unfold middle
  split <;> decide

theorem lineFeed_not_mem_hexField (width number : Nat) :
    '\n' ∉ hexField width number :=
  not_mem_hexField rfl width number

private theorem lineFeed_not_mem_rowBytes (i : Nat) (chs : List UInt8) :
    '\n' ∉ rowBytes i chs := by
  induction chs generalizing i with
  | nil => nofun
  | cons ch chs induction =>
      rw [rowBytes, List.mem_append, List.mem_append]
      rintro ((separator | byte) | later)
      · exact lineFeed_not_mem_middle i separator
      · exact lineFeed_not_mem_hexField 2 ch.toNat byte
      · exact induction (i + 1) later

private theorem lineFeed_not_mem_rowFilling (i count : Nat) :
    '\n' ∉ rowFilling i count := by
  induction count generalizing i with
  | zero => nofun
  | succ count induction =>
      have blanks : '\n' ∉ "   ".toList := by decide
      rw [rowFilling, List.mem_append, List.mem_append]
      rintro ((separator | filling) | later)
      · exact lineFeed_not_mem_middle i separator
      · exact blanks filling
      · exact induction (i + 1) later

private theorem ofNat_ne_lineFeed {code : Nat} (small : code < 256)
    (visible : 32 ≤ code) : Char.ofNat code ≠ '\n' := by
  intro same
  have valid : code.isValidChar := .inl (by omega)
  have value : (Char.ofNat code).toNat = code := by
    rw [Char.ofNat, dif_pos valid]
    rfl
  rw [same] at value
  have lineFeed : '\n'.toNat = 10 := rfl
  omega

/-- A line feed in the body is shown as a dot. -/
theorem lineFeed_not_mem_rowChars (chs : List UInt8) : '\n' ∉ rowChars chs := by
  intro member
  obtain ⟨ch, -, shown⟩ := List.mem_map.mp member
  cases visible : isPrint ch with
  | false =>
      rw [visible, if_neg Bool.false_ne_true] at shown
      revert shown
      decide
  | true =>
      rw [visible, if_pos rfl] at shown
      rw [isPrint, Bool.and_eq_true, decide_eq_true_iff] at visible
      exact ofNat_ne_lineFeed ch.toNat_lt (UInt8.le_iff_toNat_le.mp visible.1) shown

private theorem lineFeed_not_mem_dumpRow (offset : Nat) (chs : List UInt8) :
    '\n' ∉ dumpRow offset chs := by
  have blanks : '\n' ∉ "  ".toList := by decide
  rw [dumpRow, List.mem_append]
  rintro (field | behind)
  · exact lineFeed_not_mem_hexField 8 offset field
  · split at behind
    · rw [List.mem_append, List.mem_append, List.mem_append] at behind
      rcases behind with ((bytes | filling) | blank) | chars
      · exact lineFeed_not_mem_rowBytes 0 chs bytes
      · exact lineFeed_not_mem_rowFilling chs.length (16 - chs.length) filling
      · exact blanks blank
      · exact lineFeed_not_mem_rowChars chs chars
    · cases behind

private theorem lineFeed_not_mem_amqpDump {body : List UInt8} {line : Text}
    (member : line ∈ amqpDump body) : '\n' ∉ line := by
  rcases mem_amqpDump_cases member with rfl | ⟨offset, chs, rfl⟩
  · decide
  · exact lineFeed_not_mem_dumpRow offset chs

/-- The names that a message carries keep to their lines. -/
structure KeepsLines (envelope : Envelope) : Prop where
  exchange : '\n' ∉ envelope.exchange
  routingKey : '\n' ∉ envelope.routingKey
  contentType : ∀ contentType, envelope.contentType = some contentType →
    '\n' ∉ contentType

private theorem lineFeed_not_mem_deliveryLine {envelope : Envelope}
    (keeps : KeepsLines envelope) : '\n' ∉ deliveryLine envelope := by
  have first : '\n' ∉ "Delivery ".toList := by decide
  have second : '\n' ∉ ", exchange: ".toList := by decide
  have third : '\n' ∉ ", routingkey: ".toList := by decide
  have tag : '\n' ∉ (toString envelope.deliveryTag).toList := by
    intro member
    rw [Nat.toString_eq_repr, Nat.toList_repr] at member
    have digit := Nat.isDigit_of_mem_toDigits (by decide) (by decide) member
    revert digit
    decide
  unfold deliveryLine
  simp only [List.mem_append]
  rintro (((((word | number) | comma) | exchange) | label) | key)
  · exact first word
  · exact tag number
  · exact second comma
  · exact keeps.exchange exchange
  · exact third label
  · exact keeps.routingKey key

private theorem lineFeed_not_mem_envelopeLines {envelope : Envelope}
    (keeps : KeepsLines envelope) {line : Text}
    (member : line ∈ envelopeLines envelope) : '\n' ∉ line := by
  rw [envelopeLines_eq] at member
  rcases List.mem_cons.mp member with rfl | behind
  · exact lineFeed_not_mem_deliveryLine keeps
  · rcases List.mem_append.mp behind with content | dump
    · have label : '\n' ∉ "Content-type: ".toList := by decide
      cases type : envelope.contentType with
      | none =>
          rw [type] at content
          cases content
      | some contentType =>
          rw [type] at content
          rw [List.mem_singleton.mp content, List.mem_append, not_or]
          exact ⟨label, keeps.contentType contentType type⟩
    · rcases List.mem_cons.mp dump with rfl | row
      · decide
      · exact lineFeed_not_mem_amqpDump row

/-! ## The bodies -/

private theorem outputLines_output {record : List (Exchange Call Reply)}
    (free : ∀ line ∈ printed record, '\n' ∉ line) :
    outputLines (output record) = printed record := by
  rw [outputLines, output, splitOn_flatMap_append free, List.dropLast_concat]

/-- A message of one row leaves nothing out. -/
theorem omitsRepetitions_of_length_le {body : List UInt8} (short : body.length ≤ 16) :
    OmitsRepetitions body := by
  intro k inside _
  rw [completeRows] at inside
  omega

/-- A message whose names keep to their lines and whose dump leaves out repetitions
only. -/
structure Legible (envelope : Envelope) : Prop where
  keepsLines : KeepsLines envelope
  omits : OmitsRepetitions envelope.body
  small : envelope.body.length < 2 ^ 32

/-- The bodies of the delivered messages can be read back from the output, all of them
and in their order, where none of these messages has a line feed in its exchange, its
routing key or its content type, none has a body of 2^32 bytes or more, and the dump of
none leaves out a row that is no repetition. -/
theorem consumer_output_reads_back (errorString : Int → Text) (attempts : Nat)
    (world : World Call Reply)
    (legible : ∀ envelope ∈
        delivered ((main errorString attempts).run.run world []).2, Legible envelope) :
    readOutput (output ((main errorString attempts).run.run world []).2) =
      some ((delivered ((main errorString attempts).run.run world []).2).map
        Envelope.body) := by
  have shown := printed_eq_lines errorString attempts world
  have lines : outputLines (output ((main errorString attempts).run.run world []).2) =
      printed ((main errorString attempts).run.run world []).2 := by
    apply outputLines_output
    intro line member
    rw [shown] at member
    obtain ⟨envelope, among, inside⟩ := List.mem_flatMap.mp member
    exact lineFeed_not_mem_envelopeLines (legible envelope among).keepsLines inside
  have cut := splitOnP_envelopeLines [] nofun
    (delivered ((main errorString attempts).run.run world []).2)
  rw [List.nil_append] at cut
  rw [readOutput, lines, readBodies, shown, cut, List.tail_cons]
  apply mapM_readBody
  intro envelope member
  exact read_amqpDump (legible envelope member).omits (legible envelope member).small

/-- A message of the publisher, as its bytes. -/
def messageBytes (index : Nat) : List UInt8 :=
  (Publisher.messageBody index).map fun char => char.toNat.toUInt8

/-- One of them, as it is delivered. -/
def delivery (index : Nat) : Envelope where
  deliveryTag := index
  exchange := exchange
  routingKey := bindingKey
  contentType := some "text/plain".toList
  body := messageBytes (index % 3)

/-- A broker that delivers three messages of the publisher and closes the channel. -/
def threeDeliveries : World Call Reply
  | _, .waitForIface => true
  | _, .getenv _ => some "5672".toList
  | _, .newConnection => true
  | _, .tcpSocketNew => true
  | _, .socketOpen _ _ => 0
  | _, .login => .normal
  | _, .getRpcReply => .normal
  | _, .basicPublish _ => 0
  | _, .queueDeclare => "amq.gen".toList
  | _, .bytesMallocDup _ => true
  | index, .consumeMessage =>
      (if index < 40 then .normal else .libraryException 1, delivery index)
  | _, .log _ => ()
  | _, .print _ => ()
  | _, .channelOpen => ()
  | _, .queueBind _ _ _ => ()
  | _, .basicConsume _ => ()
  | _, .maybeReleaseBuffers => ()
  | _, .destroyEnvelope _ => ()
  | _, .bytesFree => ()
  | _, .channelClose => ()
  | _, .connectionClose => ()
  | _, .destroyConnection => ()

private theorem keepsLines_delivery (index : Nat) : KeepsLines (delivery index) where
  exchange := (by decide : '\n' ∉ "amq.direct".toList)
  routingKey := (by decide : '\n' ∉ "test".toList)
  contentType := by
    intro contentType same
    cases same
    decide

theorem consumer_reads_three_back :
    readOutput (output ((main (fun _ => []) 9).run.run threeDeliveries []).2) =
      some [messageBytes 1, messageBytes 0, messageBytes 2] := by
  have three : delivered ((main (fun _ => []) 9).run.run threeDeliveries []).2 =
      [19, 27, 35].map delivery := rfl
  have bodies : (delivered ((main (fun _ => []) 9).run.run threeDeliveries []).2).map
      Envelope.body = [messageBytes 1, messageBytes 0, messageBytes 2] := rfl
  have short : ∀ index ∈ [19, 27, 35], (delivery index).body.length ≤ 16 := by decide
  rw [← bodies]
  apply consumer_output_reads_back
  intro envelope member
  rw [three] at member
  obtain ⟨index, among, rfl⟩ := List.mem_map.mp member
  have row := short index among
  exact ⟨keepsLines_delivery index, omitsRepetitions_of_length_le row, by omega⟩

end KosCeExtra.Rabbitmq.Consumer
