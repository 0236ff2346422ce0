import Mathlib.Algebra.Group.Nat.Defs
import Mathlib.Data.List.Induction

/-!
# The summation servers

The C server and the C++ server of `examples/errors_via_ipc` implement one
interface, `NumberSummation`.  Each counts the calls it gets in a 64-bit counter
that starts from one, and turns every second call away: the C server by an error
status in its response, the C++ server by an exception that the converter behind
it makes into the same status.
-/

namespace KosCeExtra.Summation

/-- `Request` of `NumberSummation.idl`. -/
structure Request where
  repeats : UInt32
  num1 : UInt32
  num2 : UInt32
  deriving DecidableEq, Repr

inductive Retcode where
  | rcBusy
  | rcFail
  | other (code : Int)
  deriving DecidableEq, Repr

/-- What a server answers: the `result` of the call, or an error `status`. -/
inductive Response where
  | result (sum : UInt64)
  | status (code : Retcode)
  deriving DecidableEq, Repr

/-- What can be thrown in the C++ programs.  `ServerBusy` is a `std::exception`
and no `std::runtime_error`. -/
inductive Exception where
  | serverBusy
  | runtimeError
  | stdException
  | unknown
  deriving DecidableEq, Repr

/-- `RetcodeExceptionConverter::CatchException`. -/
def catchException : Exception → Retcode
  | .serverBusy => .rcBusy
  | .runtimeError => .rcFail
  | .stdException => .rcFail
  | .unknown => .rcFail

/-- `SumRequest_impl` of the C server, with its global `requestCounter`. -/
def sumRequestImpl (requestCounter : UInt64) (request : Request) :
    Response × UInt64 :=
  if requestCounter % 2 ≠ 0 then
    -- both operands are `uint32_t`, and so is their sum until it is stored
    (.result (request.num1 + request.num2).toUInt64, requestCounter + 1)
  else
    (.status .rcBusy, requestCounter + 1)

/-- `NumberSummarizer::SumRequest`, with the member `m_requestCounter`. -/
def sumRequest (requestCounter : UInt64) (request : Request) :
    Except Exception UInt64 × UInt64 :=
  -- the counter moves on in the condition, so also when the call throws
  if requestCounter % 2 = 0 then
    (.error .serverBusy, requestCounter + 1)
  else
    (.ok (request.num1 + request.num2).toUInt64, requestCounter + 1)

/-- The response that leaves the C++ server. -/
def sumRequestConverted (requestCounter : UInt64) (request : Request) :
    Response × UInt64 :=
  match sumRequest requestCounter request with
  | (.ok sum, counter) => (.result sum, counter)
  | (.error thrown, counter) => (.status (catchException thrown), counter)

/-- The counter of a server after the calls it has answered. -/
def counterAfter (answer : UInt64 → Request → Response × UInt64)
    (earlier : List Request) : UInt64 :=
  earlier.foldl (fun counter request => (answer counter request).2) 1

/-- The response to a call that comes after others. -/
def respond (answer : UInt64 → Request → Response × UInt64)
    (earlier : List Request) (request : Request) : Response :=
  (answer (counterAfter answer earlier) request).1

/-- What the interface is for: the sum of the operands, unless the server is
busy. -/
def IsSumOrBusy (request : Request) (response : Response) : Prop :=
  response ≠ .status .rcBusy →
    ∃ sum, response = .result sum ∧
      sum.toNat = request.num1.toNat + request.num2.toNat

/-- What both servers do: an odd counter gives the 32-bit sum. -/
def answerByParity (requestCounter : UInt64) (request : Request) :
    Response × UInt64 :=
  (if requestCounter.toNat % 2 = 1 then
      .result (request.num1 + request.num2).toUInt64
    else .status .rcBusy,
    requestCounter + 1)

theorem mod_two_eq_zero_iff (counter : UInt64) :
    counter % 2 = 0 ↔ counter.toNat % 2 = 0 := by
  rw [← UInt64.toNat_inj]
  simp

theorem sumRequestImpl_eq : sumRequestImpl = answerByParity := by
  funext counter request
  by_cases even : counter.toNat % 2 = 0
  · simp [sumRequestImpl, answerByParity, mod_two_eq_zero_iff, even]
  · have odd : counter.toNat % 2 = 1 := by omega
    simp [sumRequestImpl, answerByParity, mod_two_eq_zero_iff, odd]

theorem sumRequestConverted_eq : sumRequestConverted = answerByParity := by
  funext counter request
  by_cases even : counter.toNat % 2 = 0
  · simp [sumRequestConverted, sumRequest, catchException, answerByParity,
      mod_two_eq_zero_iff, even]
  · have odd : counter.toNat % 2 = 1 := by omega
    simp [sumRequestConverted, sumRequest, answerByParity,
      mod_two_eq_zero_iff, odd]

/-- One call turns the parity of the counter, also where the counter wraps
around. -/
theorem succ_parity (counter : UInt64) :
    (counter + 1).toNat % 2 = (counter.toNat + 1) % 2 := by
  rw [UInt64.toNat_add, UInt64.toNat_one]
  omega

private theorem counterAfter_parity (earlier : List Request) :
    (counterAfter answerByParity earlier).toNat % 2 =
      (earlier.length + 1) % 2 := by
  induction earlier using List.reverseRecOn with
  | nil => rfl
  | append_singleton earlier request induction =>
      have moved : counterAfter answerByParity (earlier ++ [request]) =
          counterAfter answerByParity earlier + 1 := by
        simp [counterAfter, answerByParity]
      rw [moved, succ_parity, List.length_append, List.length_singleton]
      omega

theorem respond_answerByParity (earlier : List Request) (request : Request) :
    respond answerByParity earlier request =
      if earlier.length % 2 = 0 then
        .result (request.num1 + request.num2).toUInt64
      else .status .rcBusy := by
  have parity := counterAfter_parity earlier
  by_cases even : earlier.length % 2 = 0
  · have odd : (counterAfter answerByParity earlier).toNat % 2 = 1 := by omega
    rw [respond, answerByParity, if_pos odd, if_pos even]
  · have other : (counterAfter answerByParity earlier).toNat % 2 ≠ 1 := by omega
    rw [respond, answerByParity, if_neg other, if_neg even]

theorem sum_toNat_iff (num1 num2 : UInt32) :
    (num1 + num2).toUInt64.toNat = num1.toNat + num2.toNat ↔
      num1.toNat + num2.toNat < 2 ^ 32 := by
  rw [UInt32.toNat_toUInt64, UInt32.toNat_add]
  constructor
  · intro exact
    rw [← exact]
    exact Nat.mod_lt _ (Nat.two_pow_pos 32)
  · exact Nat.mod_eq_of_lt

private theorem isSumOrBusy_iff (earlier : List Request) (request : Request) :
    IsSumOrBusy request (respond answerByParity earlier request) ↔
      earlier.length % 2 = 1 ∨
        request.num1.toNat + request.num2.toNat < 2 ^ 32 := by
  rw [respond_answerByParity]
  by_cases even : earlier.length % 2 = 0
  · rw [if_pos even]
    constructor
    · intro exact
      obtain ⟨sum, same, value⟩ := exact (by simp)
      cases same
      exact .inr ((sum_toNat_iff _ _).mp value)
    · rintro (odd | fits) _
      · omega
      · exact ⟨_, rfl, (sum_toNat_iff _ _).mpr fits⟩
  · have odd : earlier.length % 2 = 1 := by omega
    simp [IsSumOrBusy, odd]

/-- After any calls a server answers with the sum of the operands or as busy, if
and only if it is the turn of a busy answer or the sum fits in 32 bits. -/
theorem servers_sum_iff (earlier : List Request) (request : Request) :
    (IsSumOrBusy request (respond sumRequestImpl earlier request) ↔
      earlier.length % 2 = 1 ∨
        request.num1.toNat + request.num2.toNat < 2 ^ 32) ∧
    (IsSumOrBusy request (respond sumRequestConverted earlier request) ↔
      earlier.length % 2 = 1 ∨
        request.num1.toNat + request.num2.toNat < 2 ^ 32) := by
  rw [sumRequestImpl_eq, sumRequestConverted_eq]
  exact ⟨isSumOrBusy_iff earlier request, isSumOrBusy_iff earlier request⟩

/-- The first call of a fresh server: the carry out of 32 bits is lost. -/
theorem servers_sum_carry :
    respond sumRequestImpl [] ⟨0, 0xFFFFFFFF, 1⟩ = .result 0 ∧
      respond sumRequestConverted [] ⟨0, 0xFFFFFFFF, 1⟩ = .result 0 ∧
      ¬ IsSumOrBusy ⟨0, 0xFFFFFFFF, 1⟩
        (respond sumRequestImpl [] ⟨0, 0xFFFFFFFF, 1⟩) ∧
      ¬ IsSumOrBusy ⟨0, 0xFFFFFFFF, 1⟩
        (respond sumRequestConverted [] ⟨0, 0xFFFFFFFF, 1⟩) := by
  have first : respond sumRequestImpl [] ⟨0, 0xFFFFFFFF, 1⟩ = .result 0 := by
    decide
  have second : respond sumRequestConverted [] ⟨0, 0xFFFFFFFF, 1⟩ = .result 0 := by
    decide
  have wrong : ¬ IsSumOrBusy ⟨0, 0xFFFFFFFF, 1⟩ (.result 0) := by
    intro exact
    obtain ⟨sum, same, value⟩ := exact (by simp)
    cases same
    revert value
    decide
  rw [first, second]
  exact ⟨rfl, rfl, wrong, wrong⟩

/-! ## The two servers are interchangeable -/

/-- The responses of a server to one call after the other. -/
def responses (answer : UInt64 → Request → Response × UInt64) :
    UInt64 → List Request → List Response
  | _, [] => []
  | counter, request :: rest =>
      (answer counter request).1 ::
        responses answer (answer counter request).2 rest

private theorem responses_from
    (answer : UInt64 → Request → Response × UInt64) (counter : UInt64)
    (requests : List Request) (index : Nat) :
    (responses answer counter requests)[index]? =
      requests[index]?.map fun request =>
        (answer ((requests.take index).foldl
          (fun counter request => (answer counter request).2) counter)
          request).1 := by
  induction requests generalizing counter index with
  | nil => simp [responses]
  | cons request rest induction =>
      cases index with
      | zero => simp [responses]
      | succ index =>
          rw [responses, List.getElem?_cons_succ, induction]
          simp

/-- Each call of a fresh server is answered behind the calls before it. -/
theorem responses_eq_respond
    (answer : UInt64 → Request → Response × UInt64) (requests : List Request)
    (index : Nat) :
    (responses answer 1 requests)[index]? =
      requests[index]?.map (respond answer (requests.take index)) :=
  responses_from answer 1 requests index

/-- Fresh servers that get the same calls give the same responses: the first, the
third and so on is the sum, the others are busy.  The calls may be as many as they
like, so the counters may have wrapped around. -/
theorem servers_interchangeable (requests : List Request) :
    responses sumRequestImpl 1 requests =
        responses sumRequestConverted 1 requests ∧
      ∀ index request, requests[index]? = some request →
        (responses sumRequestImpl 1 requests)[index]? =
          some (if index % 2 = 0 then
              .result (request.num1 + request.num2).toUInt64
            else .status .rcBusy) := by
  rw [sumRequestImpl_eq, sumRequestConverted_eq]
  refine ⟨rfl, fun index request present => ?_⟩
  obtain ⟨early, -⟩ := List.getElem?_eq_some_iff.mp present
  rw [responses_eq_respond, present, Option.map_some,
    respond_answerByParity, List.length_take_of_le (Nat.le_of_lt early)]

end KosCeExtra.Summation
