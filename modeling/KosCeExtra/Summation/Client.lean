import KosCeExtra.Library.Dialogue
import KosCeExtra.Summation.Server

/-!
# The retries of the summation clients

Each client of `examples/errors_via_ipc` sends a request until the outcome of
an attempt ends the loop, and neither loop has a bound of its own.  What bounds
them is the security policy: an attempt with more than one repeat behind it is
denied before it reaches a server.  The outcomes of all other attempts are
arbitrary.
-/

namespace KosCeExtra.Summation

/-- The entries of `Servers`, by the index `curServer`. -/
inductive Server where
  | c
  | cxx
  deriving DecidableEq, Repr

/-- `curServer ^= 1` -/
def Server.other : Server → Server
  | .c => .cxx
  | .cxx => .c

/-- An attempt of a client: a `SumRequest` call to one of the servers. -/
structure Attempt where
  curServer : Server
  request : Request
  deriving DecidableEq, Repr

/-- The attempt after one that found its server busy. -/
def Attempt.switched (attempt : Attempt) : Attempt :=
  { curServer := attempt.curServer.other
    request := { attempt.request with
      repeats := attempt.request.repeats + 1 } }

/-- `MaxSecurityGrantedRepeats` of `NumberSummation.idl`, the limit of the deny
rule in `security.psl`. -/
def maxSecurityGrantedRepeats : UInt32 := 1

/-- The attempts as the security policy lets them through, to the answers that
the servers and the transport give. -/
def policed {Outcome : Type} (denied : Outcome) (answers : Nat → Outcome) :
    World Attempt (fun _ => Outcome) := fun index attempt =>
  if attempt.request.repeats > maxSecurityGrantedRepeats then denied
  else answers index

/-- An `nk_err_t` other than `NK_EOK`. -/
inductive NkErr where
  | eperm
  | other (code : Nat)
  deriving DecidableEq, Repr

/-- What a call through the C proxy comes back with: the response of a server
under `NK_EOK`, or the error of the transport. -/
inductive NkOutcome where
  | received (res : Response)
  | failed (nkError : NkErr)
  deriving DecidableEq, Repr

/-- The body of the inner loop in `main` of the C client. -/
def sumRequestTurn (attempt : Attempt) : NkOutcome → Attempt ⊕ NkOutcome
  | .received (.status .rcBusy) => .inl attempt.switched
  | .received res => .inr (.received res)
  | .failed .eperm => .inr (.failed .eperm)
  -- the error is logged, and neither the server nor `repeats` changes
  | .failed (.other _) => .inl attempt

/-- The inner loop of the C client, for one pair of operands. -/
def sumRequestLoop (curServer : Server) (num1 num2 : UInt32) (attempts : Nat) :
    Dialogue Attempt (fun _ => NkOutcome) (Option NkOutcome) :=
  Dialogue.retry id sumRequestTurn attempts
    { curServer := curServer
      request := { repeats := 0, num1 := num1, num2 := num2 } }

/-- The body of the loop in `ProcessRequest` of the C++ client.  What neither
handler catches leaves the function. -/
def processRequestTurn (attempt : Attempt) :
    Except Exception UInt64 → Attempt ⊕ Except Exception (Option UInt64)
  | .ok result => .inr (.ok (some result))
  | .error .serverBusy => .inl attempt.switched
  | .error .runtimeError => .inr (.ok none)
  | .error thrown => .inr (.error thrown)

/-- `ProcessRequest`, for a request as `main` makes it. -/
def processRequest (firstServer : Server) (num1 num2 : UInt32)
    (attempts : Nat) :
    Dialogue Attempt (fun _ => Except Exception UInt64)
      (Option (Except Exception (Option UInt64))) :=
  Dialogue.retry id processRequestTurn attempts
    { curServer := firstServer
      request := { repeats := 0, num1 := num1, num2 := num2 } }

section Turns

variable {Outcome α : Type}

/-- A loop that switches to the other server on some outcomes, repeats the same
attempt on others, and stops on the rest. -/
structure RetriesOn (turn : Attempt → Outcome → Attempt ⊕ α)
    (Busy Again : Outcome → Bool) : Prop where
  busy : ∀ attempt outcome, Busy outcome = true →
    turn attempt outcome = .inl attempt.switched
  again : ∀ attempt outcome, Again outcome = true → Busy outcome = false →
    turn attempt outcome = .inl attempt
  stops : ∀ attempt outcome, Again outcome = false → Busy outcome = false →
    ∃ result, turn attempt outcome = .inr result

/-- How many of the answers from the `start`-th on report a busy server. -/
def busyCount (Busy : Outcome → Bool) (answers : Nat → Outcome)
    (start count : Nat) : Nat :=
  (List.range' start count).countP fun index => Busy (answers index)

theorem busyCount_succ (Busy : Outcome → Bool) (answers : Nat → Outcome)
    (start count : Nat) :
    busyCount Busy answers start (count + 1) =
      busyCount Busy answers (start + 1) count +
        if Busy (answers start) = true then 1 else 0 := by
  rw [busyCount, List.range'_succ, List.countP_cons]
  rfl

theorem switched_repeats {attempt : Attempt}
    (few : attempt.request.repeats.toNat ≤ 1) :
    attempt.switched.request.repeats.toNat =
      attempt.request.repeats.toNat + 1 := by
  have value : attempt.switched.request.repeats =
      attempt.request.repeats + 1 := rfl
  rw [value, UInt32.toNat_add, UInt32.toNat_one]
  omega

private theorem policed_of_le {denied : Outcome} {answers : Nat → Outcome}
    {attempt : Attempt} (few : attempt.request.repeats.toNat ≤ 1)
    (index : Nat) : policed denied answers index attempt = answers index := by
  rw [policed, if_neg]
  intro exceeds
  have larger := UInt32.lt_iff_toNat_lt.mp exceeds
  have limit : maxSecurityGrantedRepeats.toNat = 1 := rfl
  omega

private theorem policed_of_lt {denied : Outcome} {answers : Nat → Outcome}
    {attempt : Attempt} (many : 1 < attempt.request.repeats.toNat)
    (index : Nat) : policed denied answers index attempt = denied := by
  rw [policed, if_pos]
  exact UInt32.lt_iff_toNat_lt.mpr many

variable {turn : Attempt → Outcome → Attempt ⊕ α}
  {Busy Again : Outcome → Bool} {denied : Outcome}

/-- What the first attempt can do to a loop that goes on. -/
theorem RetriesOn.going_succ_iff (retries : RetriesOn turn Busy Again)
    (deniedStops : Again denied = false ∧ Busy denied = false)
    (answers : Nat → Outcome) (attempts : Nat) (attempt : Attempt)
    (record : List (Exchange Attempt fun _ => Outcome)) :
    ((Dialogue.retry id turn (attempts + 1) attempt).run
        (policed denied answers) record).1 = none ↔
      attempt.request.repeats.toNat ≤ 1 ∧
        ((Busy (answers record.length) = true ∧
          ((Dialogue.retry id turn attempts attempt.switched).run
            (policed denied answers)
            (record ++ [⟨attempt, answers record.length⟩])).1 = none) ∨
        (Again (answers record.length) = true ∧
          Busy (answers record.length) = false ∧
          ((Dialogue.retry id turn attempts attempt).run
            (policed denied answers)
            (record ++ [⟨attempt, answers record.length⟩])).1 = none)) := by
  rw [Dialogue.run_retry_succ]
  by_cases few : attempt.request.repeats.toNat ≤ 1
  · simp only [id_eq, policed_of_le few, few, true_and]
    cases busy : Busy (answers record.length) with
    | true =>
        rw [retries.busy attempt _ busy]
        simp
    | false =>
        cases again : Again (answers record.length) with
        | true =>
            rw [retries.again attempt _ again busy]
            simp
        | false =>
            obtain ⟨result, stopped⟩ := retries.stops attempt _ again busy
            rw [stopped]
            simp
  · obtain ⟨result, stopped⟩ :=
      retries.stops attempt denied deniedStops.1 deniedStops.2
    simp only [id_eq, policed_of_lt (Nat.lt_of_not_le few), stopped, few]
    simp

/-- All answers from the `start`-th to the one `count` later let a loop go on. -/
def AllGoOn (Busy Again : Outcome → Bool) (answers : Nat → Outcome)
    (start count : Nat) : Prop :=
  ∀ index, start ≤ index → index ≤ start + count →
    Busy (answers index) = true ∨ Again (answers index) = true

private theorem allGoOn_zero {answers : Nat → Outcome} {start : Nat} :
    AllGoOn Busy Again answers start 0 ↔
      Busy (answers start) = true ∨ Again (answers start) = true := by
  constructor
  · intro all
    exact all start (Nat.le_refl start) (Nat.le_refl start)
  · intro first index lower upper
    rw [Nat.le_antisymm upper lower]
    exact first

private theorem allGoOn_succ {answers : Nat → Outcome} {start count : Nat} :
    AllGoOn Busy Again answers start (count + 1) ↔
      (Busy (answers start) = true ∨ Again (answers start) = true) ∧
        AllGoOn Busy Again answers (start + 1) count := by
  constructor
  · intro all
    constructor
    · exact all start (Nat.le_refl start) (Nat.le_add_right _ _)
    · intro index lower upper
      exact all index (by omega) (by omega)
  · rintro ⟨first, rest⟩ index lower upper
    rcases Nat.eq_or_lt_of_le lower with rfl | later
    · exact first
    · exact rest index later (by omega)

/-- A loop is still going after some attempts, if and only if all answers let
it go on and at most one of the servers before the last was busy. -/
theorem RetriesOn.going_iff (retries : RetriesOn turn Busy Again)
    (deniedStops : Again denied = false ∧ Busy denied = false)
    (answers : Nat → Outcome) (attempts : Nat) (attempt : Attempt)
    (record : List (Exchange Attempt fun _ => Outcome)) :
    ((Dialogue.retry id turn (attempts + 1) attempt).run
        (policed denied answers) record).1 = none ↔
      AllGoOn Busy Again answers record.length attempts ∧
        attempt.request.repeats.toNat +
          busyCount Busy answers record.length attempts ≤ 1 := by
  induction attempts generalizing attempt record with
  | zero =>
      rw [retries.going_succ_iff deniedStops, allGoOn_zero]
      cases Busy (answers record.length) with
      | true => simp [Dialogue.retry, busyCount]
      | false => simp [Dialogue.retry, busyCount, and_comm]
  | succ attempts induction =>
      rw [retries.going_succ_iff deniedStops, induction, induction,
        allGoOn_succ, busyCount_succ, List.length_append, List.length_singleton]
      cases Busy (answers record.length) with
      | true =>
          constructor
          · rintro ⟨few, ⟨-, goOn, count⟩ | ⟨-, impossible, -⟩⟩
            · rw [switched_repeats few] at count
              exact ⟨⟨.inl rfl, goOn⟩, by simp; omega⟩
            · cases impossible
          · rintro ⟨⟨-, goOn⟩, count⟩
            simp only [if_true] at count
            have few : attempt.request.repeats.toNat ≤ 1 := by omega
            refine ⟨few, .inl ⟨rfl, goOn, ?_⟩⟩
            rw [switched_repeats few]
            omega
      | false =>
          constructor
          · rintro ⟨few, ⟨impossible, -⟩ | ⟨again, -, goOn, count⟩⟩
            · cases impossible
            · exact ⟨⟨.inr again, goOn⟩, count⟩
          · rintro ⟨⟨impossible | again, goOn⟩, count⟩
            · cases impossible
            · exact ⟨by omega, .inr ⟨again, rfl, goOn, count⟩⟩

end Turns

def NkOutcome.isBusy : NkOutcome → Bool
  | .received (.status .rcBusy) => true
  | _ => false

/-- A transport error other than the denial of the security policy. -/
def NkOutcome.isTransportError : NkOutcome → Bool
  | .failed (.other _) => true
  | _ => false

def isServerBusy : Except Exception UInt64 → Bool
  | .error .serverBusy => true
  | _ => false

private theorem sumRequestTurn_retries :
    RetriesOn sumRequestTurn NkOutcome.isBusy NkOutcome.isTransportError where
  busy := by
    intro attempt outcome busy
    unfold NkOutcome.isBusy at busy
    split at busy
    · rfl
    · cases busy
  again := by
    intro attempt outcome again _
    unfold NkOutcome.isTransportError at again
    split at again
    · rfl
    · cases again
  stops := by
    intro attempt outcome again busy
    unfold sumRequestTurn
    split
    · cases busy
    · exact ⟨_, rfl⟩
    · exact ⟨_, rfl⟩
    · cases again

private theorem processRequestTurn_retries :
    RetriesOn processRequestTurn isServerBusy (fun _ => false) where
  busy := by
    intro attempt outcome busy
    unfold isServerBusy at busy
    split at busy
    · rfl
    · cases busy
  again := by
    intro attempt outcome again
    cases again
  stops := by
    intro attempt outcome _ busy
    unfold processRequestTurn
    split
    · exact ⟨_, rfl⟩
    · cases busy
    · exact ⟨_, rfl⟩
    · exact ⟨_, rfl⟩

theorem busyCount_two {Outcome : Type} (Busy : Outcome → Bool)
    (answers : Nat → Outcome) :
    busyCount Busy answers 0 2 =
      (if Busy (answers 1) = true then 1 else 0) +
        if Busy (answers 0) = true then 1 else 0 := by
  rw [busyCount_succ, busyCount_succ]
  simp [busyCount]

private theorem isTransportError_iff {outcome : NkOutcome}
    (goOn : outcome.isBusy = true ∨ outcome.isTransportError = true) :
    outcome.isTransportError = true ↔ outcome.isBusy = false := by
  unfold NkOutcome.isBusy NkOutcome.isTransportError at *
  cases outcome with
  | received res => split at goOn <;> simp_all
  | failed nkError => cases nkError <;> simp_all

/-- Two attempts that let the loop go on, and not both for a busy server. -/
theorem busyCount_le_one_iff {answers : Nat → NkOutcome}
    (goOn : ∀ index, index < 3 →
      (answers index).isBusy = true ∨
        (answers index).isTransportError = true) :
    busyCount NkOutcome.isBusy answers 0 2 ≤ 1 ↔
      ∃ index, index < 2 ∧ (answers index).isTransportError = true := by
  rw [busyCount_two]
  constructor
  · intro count
    cases first : (answers 0).isBusy with
    | false =>
        exact ⟨0, by omega, (isTransportError_iff (goOn 0 (by omega))).mpr first⟩
    | true =>
        cases second : (answers 1).isBusy with
        | false =>
            exact ⟨1, by omega,
              (isTransportError_iff (goOn 1 (by omega))).mpr second⟩
        | true => simp [first, second] at count
  · rintro ⟨index, early, failed⟩
    have notBusy := (isTransportError_iff (goOn index (by omega))).mp failed
    rcases (by omega : index = 0 ∨ index = 1) with rfl | rfl
    · rw [notBusy]
      cases (answers 1).isBusy <;> simp
    · rw [notBusy]
      cases (answers 0).isBusy <;> simp

theorem sumRequestLoop_stops_iff (curServer : Server) (num1 num2 : UInt32)
    (answers : Nat → NkOutcome) :
    Dialogue.StopsWithin 3 (sumRequestLoop curServer num1 num2)
        (policed (.failed .eperm) answers) ↔
      ¬ ((∀ index, index < 3 →
          (answers index).isBusy = true ∨
            (answers index).isTransportError = true) ∧
        ∃ index, index < 2 ∧ (answers index).isTransportError = true) := by
  have going : ((sumRequestLoop curServer num1 num2 3).run
      (policed (.failed .eperm) answers) []).1 = none ↔ _ :=
    sumRequestTurn_retries.going_iff ⟨rfl, rfl⟩ answers 2 _ []
  apply Dialogue.stopsWithin_retry_iff.trans
  apply not_congr
  apply going.trans
  rw [List.length_nil, UInt32.toNat_zero, Nat.zero_add]
  constructor
  · rintro ⟨goOn, count⟩
    have three : ∀ index, index < 3 → (answers index).isBusy = true ∨
        (answers index).isTransportError = true := by
      intro index early
      exact goOn index (Nat.zero_le index) (by omega)
    exact ⟨three, (busyCount_le_one_iff three).mp count⟩
  · rintro ⟨three, failed⟩
    refine ⟨?_, (busyCount_le_one_iff three).mpr failed⟩
    intro index _ upper
    exact three index (by omega)

private theorem processRequest_stops (firstServer : Server) (num1 num2 : UInt32)
    (answers : Nat → Except Exception UInt64) :
    Dialogue.StopsWithin 3 (processRequest firstServer num1 num2)
      (policed (.error .runtimeError) answers) := by
  apply Dialogue.stopsWithin_retry_iff.mpr
  intro going
  obtain ⟨goOn, count⟩ :=
    (processRequestTurn_retries.going_iff ⟨rfl, rfl⟩ answers 2 _ []).mp going
  have busy : ∀ index, index ≤ 2 → isServerBusy (answers index) = true := by
    intro index upper
    rcases goOn index (Nat.zero_le index) (by simpa using upper) with busy | never
    · exact busy
    · cases never
  rw [List.length_nil, busyCount_two, busy 0 (by omega), busy 1 (by omega)]
    at count
  simp at count

/-- Within three attempts the C++ client stops whatever the outcomes are.  The C
client stops if and only if it is not the case that the first three answers all
let it go on and one of the first two is a transport error, which the loop
repeats without counting it. -/
theorem clients_stop_within_three (first : Server) (num1 num2 : UInt32)
    (answers : Nat → NkOutcome) (outcomes : Nat → Except Exception UInt64) :
    (Dialogue.StopsWithin 3 (sumRequestLoop first num1 num2)
        (policed (.failed .eperm) answers) ↔
      ¬ ((∀ index, index < 3 →
          (answers index).isBusy = true ∨
            (answers index).isTransportError = true) ∧
        ∃ index, index < 2 ∧ (answers index).isTransportError = true)) ∧
    Dialogue.StopsWithin 3 (processRequest first num1 num2)
      (policed (.error .runtimeError) outcomes) := by
  constructor
  · exact sumRequestLoop_stops_iff first num1 num2 answers
  · exact processRequest_stops first num1 num2 outcomes

/-- A transport that fails in the same way over and over. -/
theorem sumRequestLoop_goes_on :
    ¬ Dialogue.StopsWithin 3 (sumRequestLoop .c 1 2)
      (policed (.failed .eperm) fun _ => .failed (.other 5)) := by
  rw [sumRequestLoop_stops_iff]
  intro stops
  apply stops
  exact ⟨fun _ _ => .inr rfl, 0, by omega, rfl⟩

end KosCeExtra.Summation
