import KosCeExtra.Wifi.ConnectionManager

/-!
# What the verdicts of the connection manager are worth

`Connect` and `Disconnect` answer with `true` or `false`.  `Connected` and
`Disconnected` say what the answers on the record of a call have to be for a
`true` to be justified.  An answer that failed never counts: it neither names a
network nor reports a state.
-/

namespace KosCeExtra.Wifi

open Dialogue

abbrev Record := List (Exchange Text fun _ => Answer)

/-- The answers to the commands in the order in which these are executed. -/
def answered (answers : Nat → Answer) : World Text (fun _ => Answer) :=
  fun index _ => answers index

namespace Answer

def IsOk (answer : Answer) : Prop :=
  ∃ buffer, answer = .success buffer ∧ cStr buffer = okText

/-- The answer is an identifier of a network; what texts these are is left
open. -/
def Identifies (IsIdentifier : Text → Prop) (answer : Answer)
    (networkId : Text) : Prop :=
  ∃ buffer, answer = .success buffer ∧ cStr buffer = networkId ∧
    IsIdentifier networkId

/-- The answer is a status that holds a `wpa_state`. -/
def Reports (answer : Answer) (state : Text) : Prop :=
  ∃ buffer, answer = .success buffer ∧
    statusProperty (cStr buffer) wpaState = some state

private theorem Identifies.commandResult_eq {IsIdentifier : Text → Prop}
    {answer : Answer} {networkId : Text}
    (identifies : answer.Identifies IsIdentifier networkId) :
    commandResult answer = networkId := by
  obtain ⟨buffer, rfl, same, -⟩ := identifies
  exact same

theorem Reports.unique {answer : Answer} {first second : Text}
    (left : answer.Reports first) (right : answer.Reports second) :
    first = second := by
  obtain ⟨buffer, rfl, leftState⟩ := left
  obtain ⟨_, same, rightState⟩ := right
  cases same
  rw [leftState] at rightState
  exact Option.some.inj rightState

end Answer

/-- A network was added, set up and selected, and completed its connection. -/
def Connected (IsIdentifier : Text → Prop) (self : ConnectionManager)
    (record : Record) : Prop :=
  ∃ networkId added ssidSet pskSet selected statuses,
    record =
      ⟨addNetworkCommand, added⟩ ::
      ⟨cStr (setNetworkCommand networkId "ssid".toList self.ssid), ssidSet⟩ ::
      ⟨cStr (setNetworkCommand networkId "psk".toList self.psk), pskSet⟩ ::
      ⟨cStr (selectNetworkCommand networkId), selected⟩ :: statuses ∧
    added.Identifies IsIdentifier networkId ∧
    ssidSet.IsOk ∧ pskSet.IsOk ∧ selected.IsOk ∧
    ∃ status, ⟨statusCommand, status⟩ ∈ statuses ∧ status.Reports completed

/-- The network was disabled, and the connection was left. -/
def Disconnected (self : ConnectionManager) (record : Record) : Prop :=
  ∃ disabled statuses,
    record =
      ⟨cStr (disableNetworkCommand self.networkId), disabled⟩ :: statuses ∧
    disabled.IsOk ∧
    ∃ status state, ⟨statusCommand, status⟩ ∈ statuses ∧
      status.Reports state ∧ state ≠ completed

theorem commandResult_eq_okText {answer : Answer} :
    commandResult answer = okText ↔ answer.IsOk := by
  constructor
  · intro same
    cases answer with
    | failure => cases same
    | success buffer => exact ⟨buffer, rfl, same⟩
  · rintro ⟨buffer, rfl, same⟩
    exact same

/-- No failure looks like a completed connection. -/
theorem property_eq_completed {answer : Answer} :
    getProperty (commandResult answer) wpaState = completed ↔
      answer.Reports completed := by
  rw [getProperty_eq]
  constructor
  · intro same
    cases answer with
    | failure => cases same
    | success buffer =>
        refine ⟨buffer, rfl, ?_⟩
        cases found : statusProperty (cStr buffer) wpaState with
        | none =>
            rw [commandResult, found] at same
            cases same
        | some state =>
            rw [commandResult, found] at same
            rw [← same]
            rfl
  · rintro ⟨buffer, rfl, reported⟩
    rw [commandResult, reported]
    rfl

section Runs

variable {answers : Nat → Answer} {record : Record}

theorem run_runOkCommand (cmd : Text) :
    (runOkCommand cmd).run (answered answers) record =
      (decide (commandResult (answers record.length) = okText),
        record ++ [⟨cStr cmd, answers record.length⟩]) :=
  rfl

variable {α : Type} {cmd : Text} {refused next : Program α}

/-- A command that has to be answered with `OK` for the program to go on. -/
theorem run_of_ok (ok : (answers record.length).IsOk) :
    (do if (← runOkCommand cmd) = false then refused else next).run
        (answered answers) record =
      next.run (answered answers)
        (record ++ [⟨cStr cmd, answers record.length⟩]) := by
  rw [run_bind, run_runOkCommand]
  simp only
  rw [decide_eq_true (commandResult_eq_okText.mpr ok),
    if_neg (Bool.true_eq_false.mp ·)]

theorem run_of_not_ok (bad : ¬ (answers record.length).IsOk) :
    (do if (← runOkCommand cmd) = false then refused else next).run
        (answered answers) record =
      refused.run (answered answers)
        (record ++ [⟨cStr cmd, answers record.length⟩]) := by
  rw [run_bind, run_runOkCommand]
  simp only
  rw [decide_eq_false (mt commandResult_eq_okText.mp bad), if_pos rfl]

/-- How waiting for a status comes out: at the first answer that passes the
checker, or without one. -/
theorem run_waitStatus_cases (propertyName : Text) (timeout : Nat)
    (checker : Text → Bool) :
    (∃ index, index < timeout ∧
      (∀ earlier, earlier < index →
        checker (getProperty (commandResult
          (answers (record.length + earlier))) propertyName) = false) ∧
      checker (getProperty (commandResult
        (answers (record.length + index))) propertyName) = true ∧
      (waitStatus propertyName timeout checker).run (answered answers) record =
        (true, record ++ asked (answered answers) statusCommand record.length
          (index + 1))) ∨
    (∀ earlier, earlier < timeout →
      checker (getProperty (commandResult
        (answers (record.length + earlier))) propertyName) = false) ∧
      ((waitStatus propertyName timeout checker).run (answered answers)
        record).1 = false := by
  have none_iff : ∀ answer, statusVerdict propertyName checker answer = none ↔
      checker (getProperty (commandResult answer) propertyName) = false := by
    intro answer
    unfold statusVerdict
    split
    · simp_all
    · simp_all
  rcases run_poll_cases statusCommand (statusVerdict propertyName checker) false
      (answered answers) record timeout with
    ⟨index, result, early, waits, ends, ran⟩ | ⟨waits, ran⟩
  · left
    unfold statusVerdict at ends
    split at ends
    · cases ends
      refine ⟨index, early, ?_, by assumption, ran⟩
      intro earlier before
      exact (none_iff _).mp (waits earlier before)
    · cases ends
  · right
    constructor
    · intro earlier before
      exact (none_iff _).mp (waits earlier before)
    · rw [waitStatus, ran]

end Runs

namespace ConnectionManager

variable (self : ConnectionManager) (answers : Nat → Answer)

/-- The commands of `Connect` before it waits, with their answers. -/
def selecting (networkId : Text) : Record :=
  [⟨addNetworkCommand, answers 0⟩,
    ⟨cStr (setNetworkCommand networkId "ssid".toList self.ssid), answers 1⟩,
    ⟨cStr (setNetworkCommand networkId "psk".toList self.psk), answers 2⟩,
    ⟨cStr (selectNetworkCommand networkId), answers 3⟩]

private theorem run_connect_of_ok (ssidOk : (answers 1).IsOk) (pskOk : (answers 2).IsOk)
    (selectOk : (answers 3).IsOk) :
    ((connect self).run (answered answers) []).1.1 =
        ((waitStatus wpaState defaultTimeout
          fun status => decide (status = completed)).run (answered answers)
          (selecting self answers (commandResult (answers 0)))).1 ∧
      ((connect self).run (answered answers) []).2 =
        ((waitStatus wpaState defaultTimeout
          fun status => decide (status = completed)).run (answered answers)
          (selecting self answers (commandResult (answers 0)))).2 := by
  have ran : ((connectTo { self with networkId := commandResult (answers 0) }).run
      (answered answers) [⟨addNetworkCommand, answers 0⟩]) =
      (waitStatus wpaState defaultTimeout
        fun status => decide (status = completed)).run (answered answers)
        (selecting self answers (commandResult (answers 0))) := by
    rw [connectTo, setNetwork, run_of_ok ssidOk, setNetwork, run_of_ok pskOk,
      selectNetwork, run_of_ok selectOk]
    rfl
  rw [← ran]
  exact ⟨rfl, rfl⟩

private theorem connect_false_of_not_ok
    (bad : ¬ ((answers 1).IsOk ∧ (answers 2).IsOk ∧ (answers 3).IsOk)) :
    ((connect self).run (answered answers) []).1.1 = false := by
  change ((connectTo { self with networkId := commandResult (answers 0) }).run
    (answered answers) [⟨addNetworkCommand, answers 0⟩]).1 = false
  rw [connectTo, setNetwork]
  by_cases ssidOk : (answers 1).IsOk
  · rw [run_of_ok ssidOk, setNetwork]
    by_cases pskOk : (answers 2).IsOk
    · have selectBad : ¬ (answers 3).IsOk := fun selectOk =>
        bad ⟨ssidOk, pskOk, selectOk⟩
      rw [run_of_ok pskOk, selectNetwork, run_of_not_ok selectBad]
      rfl
    · rw [run_of_not_ok pskOk]
      rfl
  · rw [run_of_not_ok ssidOk]
    rfl

/-- With `OK` for every command, the first completed status decides. -/
theorem connect_cases (ssidOk : (answers 1).IsOk) (pskOk : (answers 2).IsOk)
    (selectOk : (answers 3).IsOk) :
    (∃ index, index < defaultTimeout ∧
      (answers (4 + index)).Reports completed ∧
      ((connect self).run (answered answers) []).1.1 = true ∧
      ((connect self).run (answered answers) []).2 =
        selecting self answers (commandResult (answers 0)) ++
          asked (answered answers) statusCommand 4 (index + 1)) ∨
    (∀ index, index < defaultTimeout →
      ¬ (answers (4 + index)).Reports completed) ∧
      ((connect self).run (answered answers) []).1.1 = false := by
  obtain ⟨result, record⟩ := run_connect_of_ok self answers ssidOk pskOk selectOk
  rw [result, record]
  rcases run_waitStatus_cases wpaState defaultTimeout
      (fun status => decide (status = completed)) with
    ⟨index, early, -, passes, ran⟩ | ⟨fails, ran⟩
  · left
    rw [ran]
    refine ⟨index, early, ?_, rfl, rfl⟩
    exact property_eq_completed.mp (of_decide_eq_true passes)
  · right
    refine ⟨?_, ran⟩
    intro index early reports
    have other := of_decide_eq_false (fails index early)
    exact other (property_eq_completed.mpr reports)

theorem connect_sound_iff (IsIdentifier : Text → Prop) :
    (((connect self).run (answered answers) []).1.1 = true →
        Connected IsIdentifier self
          ((connect self).run (answered answers) []).2) ↔
      (∃ networkId, (answers 0).Identifies IsIdentifier networkId) ∨
        ¬ ((answers 1).IsOk ∧ (answers 2).IsOk ∧ (answers 3).IsOk) ∨
        ∀ index, index < defaultTimeout →
          ¬ (answers (4 + index)).Reports completed := by
  by_cases oks : (answers 1).IsOk ∧ (answers 2).IsOk ∧ (answers 3).IsOk
  · obtain ⟨ssidOk, pskOk, selectOk⟩ := oks
    rcases connect_cases self answers ssidOk pskOk selectOk with
      ⟨index, early, reports, connects, record⟩ | ⟨never, fails⟩
    · rw [record]
      constructor
      · intro sound
        obtain ⟨networkId, added, _, _, _, _, split, identifies, -⟩ :=
          sound connects
        have first : answers 0 = added := by
          simpa using (List.cons.inj split).1
        rw [first]
        exact .inl ⟨networkId, identifies⟩
      · rintro (⟨networkId, identifies⟩ | bad | never) _
        · rw [identifies.commandResult_eq]
          exact ⟨networkId, _, _, _, _, _, rfl, identifies, ssidOk, pskOk,
            selectOk, _, mem_asked.mpr ⟨index, Nat.lt_succ_self index, rfl⟩,
            reports⟩
        · exact absurd ⟨ssidOk, pskOk, selectOk⟩ bad
        · exact absurd reports (never index early)
    · rw [fails]
      constructor
      · intro _
        exact .inr (.inr never)
      · intro _ impossible
        cases impossible
  · rw [connect_false_of_not_ok self answers oks]
    constructor
    · intro _
      exact .inr (.inl oks)
    · intro _ impossible
      cases impossible

/-- The command of `Disconnect` before it waits, with its answer. -/
def disabling : Record :=
  [⟨cStr (disableNetworkCommand self.networkId), answers 0⟩]

/-- The first status that is not a completed one decides. -/
theorem disconnect_cases (disableOk : (answers 0).IsOk) :
    (∃ index, index < defaultTimeout ∧
      (∀ earlier, earlier < index →
        (answers (1 + earlier)).Reports completed) ∧
      ¬ (answers (1 + index)).Reports completed ∧
      (disconnect self).run (answered answers) [] =
        (true, disabling self answers ++
          asked (answered answers) statusCommand 1 (index + 1))) ∨
    (∀ index, index < defaultTimeout →
      (answers (1 + index)).Reports completed) ∧
      ((disconnect self).run (answered answers) []).1 = false := by
  have ran : (disconnect self).run (answered answers) [] =
      (waitStatus wpaState defaultTimeout
        fun status => decide (status ≠ completed)).run (answered answers)
        (disabling self answers) := by
    rw [disconnect, disableNetwork, run_of_ok disableOk]
    rfl
  have reports_of_fails : ∀ {answer : Answer},
      decide (getProperty (commandResult answer) wpaState ≠ completed) =
        false → answer.Reports completed := by
    intro answer fails
    exact property_eq_completed.mp (not_not.mp (of_decide_eq_false fails))
  rw [ran]
  rcases run_waitStatus_cases wpaState defaultTimeout
      (fun status => decide (status ≠ completed)) with
    ⟨index, early, waits, passes, ran⟩ | ⟨waits, ran⟩
  · left
    refine ⟨index, early, ?_, ?_, ran⟩
    · intro earlier before
      exact reports_of_fails (waits earlier before)
    · intro reports
      exact of_decide_eq_true passes (property_eq_completed.mpr reports)
  · right
    refine ⟨?_, ran⟩
    intro index early
    exact reports_of_fails (waits index early)

theorem disconnect_sound_iff :
    (((disconnect self).run (answered answers) []).1 = true →
        Disconnected self ((disconnect self).run (answered answers) []).2) ↔
      ¬ (answers 0).IsOk ∨
        ∀ index, index < defaultTimeout →
          (∀ earlier, earlier < index →
            (answers (1 + earlier)).Reports completed) →
          ∃ state, (answers (1 + index)).Reports state := by
  by_cases disableOk : (answers 0).IsOk
  · rcases disconnect_cases self answers disableOk with
      ⟨index, early, waits, left, ran⟩ | ⟨always, fails⟩
    · rw [ran]
      constructor
      · intro sound
        right
        obtain ⟨_, _, split, -, status, state, member, reports, other⟩ :=
          sound rfl
        rw [← (List.cons.inj split).2] at member
        obtain ⟨last, upTo, same⟩ := mem_asked.mp member
        have place : status = answers (1 + last) := by
          simpa [answered] using same
        rw [place] at reports
        have decisive : last = index := by
          rcases Nat.lt_succ_iff_lt_or_eq.mp upTo with before | equal
          · exact absurd (reports.unique (waits last before)) other
          · exact equal
        subst decisive
        intro poll _ completes
        rcases Nat.lt_trichotomy poll last with before | rfl | after
        · exact ⟨completed, waits poll before⟩
        · exact ⟨state, reports⟩
        · exact absurd (completes last after) left
      · rintro (bad | reported) _
        · exact absurd disableOk bad
        · obtain ⟨state, reports⟩ := reported index early waits
          refine ⟨_, _, rfl, disableOk, _, state,
            mem_asked.mpr ⟨index, Nat.lt_succ_self index, rfl⟩, reports, ?_⟩
          rintro rfl
          exact left reports
    · rw [fails]
      constructor
      · intro _
        right
        intro index early _
        exact ⟨completed, always index early⟩
      · intro _ impossible
        cases impossible
  · have fails : ((disconnect self).run (answered answers) []).1 = false := by
      rw [disconnect, disableNetwork, run_of_not_ok disableOk]
      rfl
    rw [fails]
    constructor
    · intro _
      exact .inl disableOk
    · intro _ impossible
      cases impossible

end ConnectionManager

/-- When a `true` is justified.  A connection: the network got its identifier, or
another answer already makes `Connect` fail.  A disconnection: every status up to
the first one that is not completed tells a state. -/
theorem verdicts_sound_iff (IsIdentifier : Text → Prop)
    (self : ConnectionManager) (answers : Nat → Answer) :
    (((self.connect.run (answered answers) []).1.1 = true →
        Connected IsIdentifier self
          (self.connect.run (answered answers) []).2) ↔
      (∃ networkId, (answers 0).Identifies IsIdentifier networkId) ∨
        ¬ ((answers 1).IsOk ∧ (answers 2).IsOk ∧ (answers 3).IsOk) ∨
        ∀ index, index < defaultTimeout →
          ¬ (answers (4 + index)).Reports completed) ∧
    (((self.disconnect.run (answered answers) []).1 = true →
        Disconnected self (self.disconnect.run (answered answers) []).2) ↔
      ¬ (answers 0).IsOk ∨
        ∀ index, index < defaultTimeout →
          (∀ earlier, earlier < index →
            (answers (1 + earlier)).Reports completed) →
          ∃ state, (answers (1 + index)).Reports state) := by
  constructor
  · exact self.connect_sound_iff answers IsIdentifier
  · exact self.disconnect_sound_iff answers

/-- Answers to `Connect` after `ADD_NETWORK` has failed. -/
def withoutNetwork : Nat → Answer
  | 0 => .failure
  | 1 => .success okText
  | 2 => .success okText
  | 3 => .success okText
  | _ => .success "wpa_state=COMPLETED".toList

/-- Answers to `Disconnect` when `STATUS` fails. -/
def withoutStatus : Nat → Answer
  | 0 => .success okText
  | _ => .failure

def homeNetwork : ConnectionManager where
  ssid := "home".toList
  psk := "secret".toList
  networkId := "0".toList

theorem verdicts_unsound :
    (∀ IsIdentifier : Text → Prop,
      ¬ ((homeNetwork.connect.run (answered withoutNetwork) []).1.1 = true →
          Connected IsIdentifier homeNetwork
            (homeNetwork.connect.run (answered withoutNetwork) []).2)) ∧
      ¬ ((homeNetwork.disconnect.run (answered withoutStatus) []).1 = true →
          Disconnected homeNetwork
            (homeNetwork.disconnect.run (answered withoutStatus) []).2) := by
  have ok : (Answer.success okText).IsOk := ⟨okText, rfl, by decide⟩
  constructor
  · intro IsIdentifier
    rw [homeNetwork.connect_sound_iff]
    rintro (⟨networkId, buffer, impossible, -⟩ | bad | never)
    · cases impossible
    · exact bad ⟨ok, ok, ok⟩
    · exact never 0 (by decide) ⟨"wpa_state=COMPLETED".toList, rfl, by decide⟩
  · rw [homeNetwork.disconnect_sound_iff]
    rintro (bad | reported)
    · exact bad ok
    · obtain ⟨state, buffer, impossible, -⟩ :=
        reported 0 (by decide) fun _ impossible => nomatch impossible
      cases impossible

end KosCeExtra.Wifi
