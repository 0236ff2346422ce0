import Mathlib.Data.List.Basic
import Mathlib.Data.Fintype.Basic

/-!
# What the name resolver answers, and whether it can be sent

`OnResolved` turns a completion reported by c-ares into the two strings of an
`OnResolve` call.  A name comes in under the bound of the `Resolve` interface
and goes out under the bound of `ResolveCallback`, which is half as large: the
last theorem says which completions of which requests fit on the way out.
-/

namespace KosCeExtra.Dns

abbrev Text := List Char

/-- A `char` of the address: signed on some platforms and unsigned on others. -/
structure AddressByte where
  value : Int
  lower : -128 ≤ value
  upper : value ≤ 255

/-- The parts of a `hostent` that `OnResolved` reads: `h_name` and the first
four bytes of `h_addr_list[0]`. -/
structure HostEntry where
  name : Text
  address : Fin 4 → AddressByte

def aresSuccess : Int := 0

/-- The arguments c-ares gives to `OnResolved` besides the request. -/
structure Lookup where
  status : Int
  host : Option HostEntry

/-- `std::to_string` of an `int`. -/
def toDecimal (value : Int) : Text :=
  if value < 0 then
    '-' :: Nat.toDigits 10 value.natAbs
  else
    Nat.toDigits 10 value.natAbs

/-- The loop over the octets: each one with a dot behind it, and the last dot
taken off again. -/
def dottedAddress (host : HostEntry) : Text :=
  ((List.finRange 4).flatMap fun index =>
    toDecimal (host.address index).value ++ ['.']).dropLast

/-- The host of a successful lookup. -/
def Lookup.found (lookup : Lookup) : Option HostEntry :=
  if lookup.status = aresSuccess then lookup.host else none

/-- The name and the address that `OnResolved` passes to `OnResolve`. -/
def answer (name : Text) (lookup : Lookup) : Text × Text :=
  match lookup.found with
  | some host => (host.name, dottedAddress host)
  | none => (name, "Lookup failed".toList)

/-- A value fits an IDL `string<bound>`. -/
def Fits (bound : Nat) (text : Text) : Prop :=
  text.length ≤ bound

instance (bound : Nat) (text : Text) : Decidable (Fits bound text) :=
  inferInstanceAs (Decidable (_ ≤ _))

/-- The bound of `Resolver.Resolve` on a name. -/
def resolveBound : Nat := 256

/-- The bounds of `ResolveCallback.OnResolve`. -/
def onResolveBound : Nat := 128

/-- `Resolve` takes a name that fits its parameter and is not empty. -/
def Accepts (name : Text) : Prop :=
  Fits resolveBound name ∧ name ≠ []

instance (name : Text) : Decidable (Accepts name) :=
  inferInstanceAs (Decidable (_ ∧ _))

/-- Both strings of the answer fit their parameters. -/
def AnswerFits (name : Text) (lookup : Lookup) : Prop :=
  Fits onResolveBound (answer name lookup).1 ∧
    Fits onResolveBound (answer name lookup).2

instance (name : Text) (lookup : Lookup) : Decidable (AnswerFits name lookup) :=
  inferInstanceAs (Decidable (_ ∧ _))

private theorem toDecimal_length_le (byte : AddressByte) :
    (toDecimal byte.value).length ≤ 4 := by
  have digits : ∀ octet : Fin 256, (Nat.toDigits 10 octet).length ≤ 3 := by
    decide +kernel
  have inRange : byte.value.natAbs < 256 := by
    have lower := byte.lower
    have upper := byte.upper
    omega
  have short := digits ⟨byte.value.natAbs, inRange⟩
  unfold toDecimal
  split
  · rw [List.length_cons]
    exact Nat.succ_le_succ short
  · exact Nat.le_succ_of_le short

/-- An address takes at most four characters an octet and the dots between. -/
theorem dottedAddress_length_le (host : HostEntry) :
    (dottedAddress host).length ≤ 19 := by
  have octet := fun index => toDecimal_length_le (host.address index)
  have first := octet 0
  have second := octet 1
  have third := octet 2
  have fourth := octet 3
  have octets : List.finRange 4 = [0, 1, 2, 3] := by decide
  simp only [dottedAddress, octets, List.flatMap_cons, List.flatMap_nil,
    List.length_dropLast, List.length_append, List.length_singleton,
    List.length_nil]
  omega

theorem answerFits_of_not_found {name : Text} {lookup : Lookup}
    (absent : lookup.found = none) :
    AnswerFits name lookup ↔ name.length ≤ 128 := by
  have text : "Lookup failed".toList.length ≤ 128 := by decide
  unfold AnswerFits answer Fits onResolveBound
  rw [absent]
  exact ⟨And.left, fun short => ⟨short, text⟩⟩

private theorem answerFits_of_found {name : Text} {lookup : Lookup} {host : HostEntry}
    (found : lookup.found = some host) :
    AnswerFits name lookup ↔ host.name.length ≤ 128 := by
  have address : (dottedAddress host).length ≤ 128 :=
    Nat.le_trans (dottedAddress_length_le host) (by decide)
  unfold AnswerFits answer Fits onResolveBound
  rw [found]
  exact ⟨And.left, fun short => ⟨short, address⟩⟩

/-- The answer to a request can be sent exactly when the name in it is short
enough for the callback: the canonical name of a host that was found, the
requested name otherwise. -/
theorem answerFits_iff (name : Text) (lookup : Lookup) :
    AnswerFits name lookup ↔
      (∀ host, lookup.found = some host → host.name.length ≤ 128) ∧
        (lookup.found = none → name.length ≤ 128) := by
  cases found : lookup.found with
  | none =>
      rw [answerFits_of_not_found found]
      constructor
      · intro short
        exact ⟨fun host absent => (by cases absent), fun _ => short⟩
      · rintro ⟨-, short⟩
        exact short rfl
  | some host =>
      rw [answerFits_of_found found]
      constructor
      · intro short
        refine ⟨fun other same => ?_, fun absent => (by cases absent)⟩
        rw [← Option.some.inj same]
        exact short
      · rintro ⟨short, -⟩
        exact short host rfl

/-- `Resolve` takes a name of 129 characters, and a failed lookup of it has no
answer that can be sent. -/
theorem longName_answer_unsendable :
    Accepts (List.replicate 129 'a') ∧
      ¬ AnswerFits (List.replicate 129 'a') ⟨4, none⟩ := by
  have accepted : Accepts (List.replicate 129 'a') := by
    simp [Accepts, Fits, resolveBound]
  refine ⟨accepted, fun fits => ?_⟩
  have short := (answerFits_of_not_found rfl).mp fits
  rw [List.length_replicate] at short
  exact absurd short (by decide)

end KosCeExtra.Dns
