import KosCeExtra.Library.CheckedBuffer
import KosCeExtra.Library.Hex

/-!
# Message digests in pieces

A transcription of `Digest` and `PrintMessageDigest` from
`examples/boringssl/hasher/src/main.cpp`.  The calls of BoringSSL are given by an
`Evp`; of a digest it is known that it fits the buffer that the library asks its
callers for.  The context is a pointer that `Get` resets, and from then on the
object only has the value.  That the context could be allocated is taken for
granted.
-/

namespace KosCeExtra.Hasher

abbrev Text := List Char
abbrev Data := List UInt8

/-- `EVP_MAX_MD_SIZE` -/
def evpMaxMdSize : Nat := 64

/-- The calls of the library, by the algorithms and contexts it has. -/
structure Evp (Algorithm Context : Type) where
  getDigestByName : Text → Option Algorithm
  /-- `EVP_DigestInit_ex`, with `none` for a failure -/
  digestInit : Algorithm → Option Context
  digestUpdate : Context → Data → Context
  /-- the bytes that `EVP_DigestFinal_ex` puts out -/
  digestFinal : Context → Data
  digestFits : ∀ context, (digestFinal context).length ≤ evpMaxMdSize

structure Digest (Context : Type) where
  name : Text
  context : Option Context
  value : Data
  deriving DecidableEq, Repr

/-- A text as it is read through a `char *`: up to its first NUL. -/
def cStr (text : Text) : Text :=
  text.takeWhile (· != Char.ofNat 0)

/-- `EVP_DigestFinal_ex` into a buffer. -/
def storeDigest (digest buffer : Data) : Except Fault Data :=
  if digest.length ≤ buffer.length then
    .ok (digest ++ buffer.drop digest.length)
  else
    .error (.store buffer.length)

/-- `vector::resize` -/
def resize (data : Data) (length : Nat) : Data :=
  data.take length ++ List.replicate (length - data.length) 0

variable {Algorithm Context : Type}

namespace Digest

/-- The constructor, with the text of its exception. -/
def construct (evp : Evp Algorithm Context) (name : Text) :
    Except Text (Digest Context) :=
  match evp.getDigestByName (cStr name) with
  | none => .error ("Unknown message digest".toList ++ name)
  | some md =>
      match evp.digestInit md with
      | none => .error "Digest initialization failed".toList
      | some context =>
          .ok { name := name
                context := some context
                value := List.replicate evpMaxMdSize 0 }

/-- `Update`, where `none` is a null pointer. -/
def update (evp : Evp Algorithm Context) (self : Digest Context)
    (data : Option Data) : Digest Context :=
  match self.context, data with
  | some context, some bytes =>
      if bytes.length ≠ 0 then
        { self with context := some (evp.digestUpdate context bytes) }
      else
        self
  | _, _ => self

/-- What both operators do to the object. -/
def shift (evp : Evp Algorithm Context) (self : Digest Context) (data : Data) :
    Digest Context :=
  if self.context.isSome ∧ data ≠ [] then
    self.update evp (some data)
  else
    self

/-- `operator << (const std::string_view) &` -/
def shiftLvalue (evp : Evp Algorithm Context) (self : Digest Context)
    (data : Data) : Digest Context :=
  self.shift evp data

/-- `operator << (std::string_view) &&` -/
def shiftRvalue (evp : Evp Algorithm Context) (self : Digest Context)
    (data : Data) : Digest Context :=
  self.shift evp data

/-- `Get`, with the value it returns a reference to. -/
def get (evp : Evp Algorithm Context) (self : Digest Context) :
    Except Fault (Data × Digest Context) :=
  match self.context with
  | none => .ok (self.value, self)
  | some context =>
      let digest := evp.digestFinal context
      match storeDigest digest self.value with
      | .error fault => .error fault
      | .ok stored =>
          let value := resize stored digest.length
          .ok (value, { self with context := none, value := value })

end Digest

/-- An operation on a digest. -/
inductive Operation where
  | update (data : Option Data)
  | shiftLvalue (data : Data)
  | shiftRvalue (data : Data)
  | get
  deriving DecidableEq, Repr

/-- One operation, with what it has returned if it is `Get`. -/
def step (evp : Evp Algorithm Context) (digest : Digest Context) :
    Operation → Except Fault (List Data × Digest Context)
  | .update data => .ok ([], digest.update evp data)
  | .shiftLvalue data => .ok ([], digest.shiftLvalue evp data)
  | .shiftRvalue data => .ok ([], digest.shiftRvalue evp data)
  | .get =>
      match digest.get evp with
      | .error fault => .error fault
      | .ok (value, next) => .ok ([value], next)

/-- A sequence of operations, with what the calls of `Get` have returned. -/
def run (evp : Evp Algorithm Context) :
    Digest Context → List Operation → Except Fault (List Data × Digest Context)
  | digest, [] => .ok ([], digest)
  | digest, operation :: operations =>
      match step evp digest operation with
      | .error fault => .error fault
      | .ok (returned, next) =>
          match run evp next operations with
          | .error fault => .error fault
          | .ok (later, last) => .ok (returned ++ later, last)

/-- A vector of bytes on a stream. -/
def hexBytes (data : Data) : Text :=
  data.flatMap fun val => hexField 2 val.toNat

/-- Bytes on a stream, as characters. -/
def charsOf (data : Data) : Text :=
  data.map fun byte => Char.ofNat byte.toNat

/-- The lines for a message whose digest is `value`. -/
def messageDigestText (name : Text) (msgParts : List Data) (value : Data) : Text :=
  "Message parts: ".toList ++
    msgParts.flatMap (fun part => '[' :: charsOf part ++ [']']) ++ ['\n'] ++
    "Message digest obtain with ".toList ++ name ++
    " algorithm is: ".toList ++ hexBytes value ++ ['\n']

/-- `PrintMessageDigest`, with the text it writes. -/
def printMessageDigest (evp : Evp Algorithm Context) (digestAlgorithm : Text)
    (msgParts : List Data) : Except Fault Text :=
  match Digest.construct evp digestAlgorithm with
  | .error what => .ok ("Error occurred :".toList ++ what ++ ['\n'])
  | .ok constructed =>
      let digest := msgParts.foldl (Digest.shiftRvalue evp) constructed
      match digest.get evp with
      | .error fault => .error fault
      | .ok (value, _) =>
          .ok (messageDigestText digest.name msgParts value)

end KosCeExtra.Hasher
