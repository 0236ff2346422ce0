import KosCeExtra.Grpc.AcceptedArguments
import KosCeExtra.Grpc.Programs
import KosCeExtra.Library.Monitor

/-!
# What the command line of a gRPC program commits it to

A monitor knows the options and follows a program from the network to its requests.
The client makes one channel, to the endpoint and with the credentials that the options
ask for, and sends every request over it; the server listens with the credentials that
its options ask for.  No file that is missing makes either of them go on without it.
-/

namespace KosCeExtra.Grpc

open Dialogue Monitor

namespace Client

/-- How far the client has come. -/
inductive Stage where
  | begun
  | offline
  | online
  /-- the certificate is read -/
  | trusting (cacert : Text)
  | unreadable
  /-- the channel is there, and so many requests have been answered -/
  | ready (answered : Nat)
  | announced (answered : Nat)
  | replied (answered : Nat) (reply : Text)
  deriving DecidableEq, Repr

/-- What the client may do, by the options that it has been given. -/
def discipline (options : ClientOptions) : Monitor Call Reply Stage
  | .begun, ⟨.waitForIface, up⟩ => some (if up = false then .offline else .online)
  | .online, ⟨.readFile filename, content⟩ =>
      if options.useSecureConnection = true ∧ filename = caFile then
        some (content.elim .unreadable .trusting)
      else
        none
  | .online, ⟨.createChannel target credentials, _⟩ =>
      if options.useSecureConnection = false ∧ target = options.targetEndpoint ∧
          credentials = .insecure then
        some (.ready 0)
      else
        none
  | .trusting cacert, ⟨.createChannel target credentials, _⟩ =>
      if options.useSecureConnection = true ∧ target = options.targetEndpoint ∧
          credentials = .ssl cacert testName then
        some (.ready 0)
      else
        none
  | .ready answered, ⟨.print line, _⟩ =>
      if line = sendLine answered then some (.announced answered) else none
  | .announced answered, ⟨.sayHello name, result⟩ =>
      if name = user then some (.replied answered (presented result)) else none
  | .replied answered reply, ⟨.print line, _⟩ =>
      if line = receivedLine reply then some (.ready (answered + 1)) else none
  | stage, ⟨.print _, _⟩ => some stage
  | _, _ => none

/-- No channel has been made. -/
def Stage.IsIdle (stage : Stage) : Prop :=
  stage = .begun ∨ stage = .offline ∨ stage = .unreadable

variable {options : ClientOptions}

/-- A part of the client keeps to its order; where it throws, there is no channel. -/
abbrev Keeps (options : ClientOptions) (stage : Stage) (program : Program α)
    (Post : α → Stage → Prop) : Prop :=
  Watches (discipline options) stage program.run
    (Either Post fun _ reached => reached.IsIdle)

theorem keeps_createChannel :
    Keeps options .online
      (createChannel options.targetEndpoint options.useSecureConnection)
      fun _ reached => reached = .ready 0 := by
  apply Watches.iteExcept
  · intro secure
    apply Watches.bindExcept (M := fun cacert reached => reached = .trusting cacert)
    · apply Watches.callThen (fun _ => if_pos ⟨secure, rfl⟩)
      intro content
      cases content with
      | none => exact .throwExcept (.inr (.inr rfl))
      | some cacert => exact .pureExcept rfl
    · intro cacert reached same
      rw [same]
      apply Watches.lift
      apply Watches.ask
      intro _
      exact ⟨.ready 0, if_pos ⟨secure, rfl, rfl⟩, rfl⟩
  · intro plain
    apply Watches.lift
    apply Watches.ask
    intro _
    exact ⟨.ready 0, if_pos ⟨Bool.not_eq_true _ ▸ plain, rfl, rfl⟩, rfl⟩

theorem keeps_sendRequests (index count : Nat) :
    Keeps options (.ready index) (sendRequests index count)
      fun _ reached => reached = .ready (index + count) := by
  induction count generalizing index with
  | zero => exact .pureExcept rfl
  | succ count induction =>
      apply Watches.callThen (fun _ => if_pos rfl)
      intro _
      apply Watches.callThen (f := fun result => .replied index (presented result))
      · intro result
        rw [discipline]
        exact if_pos rfl
      · intro result
        apply Watches.callThen (fun _ => if_pos rfl)
        intro _
        rw [← Nat.add_assoc, Nat.add_right_comm]
        exact induction (index + 1)

/-- Where the body ends with a status, it has sent all its requests or made no channel. -/
def Ends (status : ExitStatus) (reached : Stage) : Prop :=
  match status with
  | .success => reached = .ready requestCount
  | .failure => reached.IsIdle

theorem Ends.iff {status : ExitStatus} {reached : Stage} (ends : Ends status reached) :
    (status = .success ↔ reached = .ready requestCount) ∧
      (status = .failure ↔ reached.IsIdle) := by
  cases status with
  | success =>
      obtain rfl : reached = .ready requestCount := ends
      exact ⟨iff_of_true rfl rfl, iff_of_false (by simp) (by simp [Stage.IsIdle])⟩
  | failure =>
      have idle : reached.IsIdle := ends
      refine ⟨iff_of_false (by simp) ?_, iff_of_true rfl idle⟩
      rintro rfl
      simp [Stage.IsIdle] at idle

theorem keeps_greet : Keeps options .begun (greet options) Ends := by
  apply Watches.callThen (fun _ => rfl)
  intro _
  apply Watches.callThen (fun _ => rfl)
  intro up
  apply Watches.iteExcept
  · intro down
    rw [if_pos down]
    apply Watches.callThen (fun _ => rfl)
    intro _
    exact .pureExcept (.inr (.inl rfl))
  · intro isUp
    rw [if_neg isUp]
    apply Watches.callThen (fun _ => rfl)
    intro _
    apply Watches.callThen (fun _ => rfl)
    intro _
    apply Watches.bindExcept keeps_createChannel
    intro _ reached same
    rw [same]
    apply Watches.bindExcept (keeps_sendRequests 0 requestCount)
    intro _ reached same
    exact .pureExcept (same.trans (congrArg Stage.ready (Nat.zero_add _)))

theorem keeps_body (defaultEndpoint : Text) (args : List Text) :
    Keeps (parseClientArgs defaultEndpoint args).2 .begun
      (body defaultEndpoint args) Ends := by
  unfold body
  cases parsed : parseClientArgs defaultEndpoint args with
  | mk outcome options =>
      cases outcome with
      | error message => exact .throwExcept (.inl rfl)
      | ok _ => exact keeps_greet

private theorem print_of_isIdle {stage : Stage} (idle : stage.IsIdle) (line : Text) :
    discipline options stage ⟨.print line, ()⟩ = some stage := by
  rcases idle with rfl | rfl | rfl
  · rfl
  · rfl
  · rfl

theorem keeps_main (defaultEndpoint : Text) (args : List Text) :
    Watches (discipline (parseClientArgs defaultEndpoint args).2) .begun
      (main defaultEndpoint args) Ends := by
  apply Watches.askThen (fun _ => rfl)
  intro _
  apply Watches.bind (keeps_body defaultEndpoint args)
  intro outcome reached holds
  cases outcome with
  | ok status => exact .pure holds
  | error what =>
      apply Watches.askThen (fun _ => print_of_isIdle holds _)
      intro _
      exact .pure holds

/-- A channel is made as the options say. -/
theorem channel_of_discipline {stage next : Stage} {target : Text}
    {credentials : Credentials} {made : Unit}
    (stepped : discipline options stage ⟨.createChannel target credentials, made⟩ =
      some next) :
    target = options.targetEndpoint ∧
      (credentials = .insecure ↔ options.useSecureConnection = false) := by
  cases stage with
  | online =>
      rw [discipline] at stepped
      split at stepped
      next asked => exact ⟨asked.2.1, iff_of_true asked.2.2 asked.1⟩
      next => cases stepped
  | trusting cacert =>
      rw [discipline] at stepped
      split at stepped
      next asked =>
        refine ⟨asked.2.1, iff_of_false ?_ ?_⟩
        · rw [asked.2.2]
          simp
        · simp [asked.1]
      next => cases stepped
  | _ => cases stepped

/-- A client whose command line is not accepted makes no calls to the library. -/
theorem main_refused {defaultEndpoint message : Text} {args : List Text}
    (refused : (parseClientArgs defaultEndpoint args).1 = .error message)
    (world : World Call Reply) {exchange : Exchange Call Reply}
    (member : exchange ∈ ((main defaultEndpoint args).run world []).2) :
    ∃ line, exchange.1 = .print line := by
  have thrown : body defaultEndpoint args = throw message := by
    unfold body
    cases parsed : parseClientArgs defaultEndpoint args with
    | mk outcome options =>
        rw [parsed] at refused
        cases refused
        rfl
  rw [main, thrown] at member
  rcases List.mem_pair.mp member with rfl | rfl
  · exact ⟨_, rfl⟩
  · exact ⟨_, rfl⟩

/-- Whatever the outside replies, the client keeps to its order: it makes one channel at
most, to the endpoint and with the credentials that its command line asks for, and it
reads the certificate for a secure one before.  Behind the channel it prints, sends and
prints in turn, 20000 times, and exactly then it ends with success. -/
theorem client_as_asked (defaultEndpoint : Text) (args : List Text)
    (world : World Call Reply) :
    ∃ stage, (discipline (parseClientArgs defaultEndpoint args).2).after .begun
        ((main defaultEndpoint args).run world []).2 = some stage ∧
      (((main defaultEndpoint args).run world []).1 = .success ↔
        stage = .ready requestCount) ∧
      (((main defaultEndpoint args).run world []).1 = .failure ↔ stage.IsIdle) ∧
      ∀ target credentials made,
        ⟨.createChannel target credentials, made⟩ ∈
          ((main defaultEndpoint args).run world []).2 →
        target = (parseClientArgs defaultEndpoint args).2.targetEndpoint ∧
          (credentials = .insecure ↔ argSecure ∉ args) := by
  obtain ⟨stage, accepted, ends⟩ := keeps_main defaultEndpoint args .begun world [] rfl
  refine ⟨stage, accepted, ends.iff.1, ends.iff.2, ?_⟩
  intro target credentials made member
  cases outcome : (parseClientArgs defaultEndpoint args).1 with
  | error message =>
      obtain ⟨line, impossible⟩ := main_refused outcome world member
      cases impossible
  | ok _ =>
      obtain ⟨before, next, stepped⟩ := step_of_mem accepted member
      obtain ⟨same, plain⟩ := channel_of_discipline stepped
      refine ⟨same, plain.trans ?_⟩
      have all := (client_parsesBy.ok_iff _ args).mp outcome
      rw [parseClientArgs, client_parsesBy.parseArgs_eq all, ← Bool.not_eq_true,
        effects_secure_iff]
      simp

end Client

namespace Server

/-- How far the server has come. -/
inductive Stage where
  | begun
  | offline
  | online
  | trusting (serverCA : Text)
  | certified (serverCA servercert : Text)
  | keyed (serverCA servercert serverkey : Text)
  | unreadable
  | built (started : Bool)
  /-- it has said so, and it listens -/
  | listening
  /-- it has said so, and it does not -/
  | adrift
  /-- `Wait` does not return -/
  | serving
  /-- it has been shut down -/
  | served
  deriving DecidableEq, Repr

/-- What the server may do, by its option. -/
def discipline (useSecureConnection : Bool) : Monitor Call Reply Stage
  | .begun, ⟨.waitForIface, up⟩ => some (if up = false then .offline else .online)
  | .online, ⟨.readFile filename, content⟩ =>
      if useSecureConnection = true ∧ filename = caFile then
        some (content.elim .unreadable .trusting)
      else
        none
  | .trusting serverCA, ⟨.readFile filename, content⟩ =>
      if filename = certFile then
        some (content.elim .unreadable (.certified serverCA))
      else
        none
  | .certified serverCA servercert, ⟨.readFile filename, content⟩ =>
      if filename = keyFile then
        some (content.elim .unreadable (.keyed serverCA servercert))
      else
        none
  | .online, ⟨.buildAndStart address credentials, started⟩ =>
      if useSecureConnection = false ∧ address = serverAddress ∧
          credentials = .insecure then
        some (.built started)
      else
        none
  | .keyed serverCA servercert serverkey,
      ⟨.buildAndStart address credentials, started⟩ =>
      if useSecureConnection = true ∧ address = serverAddress ∧
          credentials = .ssl serverCA serverkey servercert then
        some (.built started)
      else
        none
  | .built started, ⟨.print line, _⟩ =>
      if line = listeningLine then
        some (if started = false then .adrift else .listening)
      else
        none
  | .listening, ⟨.wait, returned⟩ => some (returned.elim .serving fun _ => .served)
  | stage, ⟨.print _, _⟩ => some stage
  | _, _ => none

/-- Nothing has been told to listen. -/
def Stage.IsIdle (stage : Stage) : Prop :=
  stage = .begun ∨ stage = .offline ∨ stage = .unreadable

/-- Where an error leaves the server. -/
def Failed : Interruption → Stage → Prop
  | .runtimeError _, reached => reached.IsIdle
  | .undefined, reached => reached = .adrift
  | .serving, reached => reached = .serving

variable {useSecureConnection : Bool}

abbrev Keeps (useSecureConnection : Bool) (stage : Stage) (program : Program α)
    (Post : α → Stage → Prop) : Prop :=
  Watches (discipline useSecureConnection) stage program.run (Either Post Failed)

theorem keeps_readFile {stage : Stage} {filename : Text} {f : Text → Stage}
    (steps : ∀ content, discipline useSecureConnection stage
      ⟨.readFile filename, content⟩ = some (content.elim .unreadable f)) :
    Keeps useSecureConnection stage (readFile filename)
      fun content reached => reached = f content := by
  apply Watches.callThen steps
  intro content
  cases content with
  | none => exact .throwExcept (.inr (.inr rfl))
  | some content => exact .pureExcept rfl

/-- The server may listen with the credentials, and say which they are before. -/
def MayListen (useSecureConnection : Bool) (credentials : Credentials)
    (reached : Stage) : Prop :=
  (∀ line, discipline useSecureConnection reached ⟨.print line, ()⟩ =
      some reached) ∧
    ∀ started, discipline useSecureConnection reached
      ⟨.buildAndStart serverAddress credentials, started⟩ = some (.built started)

theorem keeps_getSecureCredentials (secure : useSecureConnection = true) :
    Keeps useSecureConnection .online getSecureCredentials
      (MayListen useSecureConnection) := by
  apply Watches.bindExcept
  · apply keeps_readFile (f := .trusting)
    intro content
    exact if_pos ⟨secure, rfl⟩
  · rintro serverCA reached rfl
    apply Watches.bindExcept
    · apply keeps_readFile (f := .certified serverCA)
      intro content
      rw [discipline]
      exact if_pos rfl
    · rintro servercert reached rfl
      apply Watches.bindExcept
      · apply keeps_readFile (f := .keyed serverCA servercert)
        intro content
        rw [discipline]
        exact if_pos rfl
      · rintro serverkey reached rfl
        apply Watches.pureExcept
        refine ⟨fun _ => rfl, ?_⟩
        intro started
        exact if_pos ⟨secure, rfl, rfl⟩

theorem keeps_chosenCredentials :
    Keeps useSecureConnection .online (chosenCredentials useSecureConnection)
      (MayListen useSecureConnection) := by
  apply Watches.iteExcept
  · intro secure
    exact keeps_getSecureCredentials secure
  · intro plain
    apply Watches.pureExcept
    refine ⟨fun _ => rfl, ?_⟩
    intro started
    exact if_pos ⟨(Bool.not_eq_true _).mp plain, rfl, rfl⟩

theorem keeps_runServer {stage : Stage} {credentials : Credentials}
    (may : MayListen useSecureConnection credentials stage) :
    Keeps useSecureConnection stage (runServer credentials)
      fun _ reached => reached = .served := by
  apply Watches.callThen may.2
  intro started
  apply Watches.callThen
    (f := fun _ => if started = false then .adrift else .listening)
  · intro _
    rw [discipline]
    exact if_pos rfl
  · intro _
    apply Watches.iteExcept
    · intro null
      rw [if_pos null]
      exact .throwExcept rfl
    · intro isStarted
      rw [if_neg isStarted]
      apply Watches.callThen (fun _ => rfl)
      intro returned
      cases returned with
      | none => exact .throwExcept rfl
      | some _ => exact .pureExcept rfl

/-- What the end of `main` says of the server. -/
def Ends : Ending → Stage → Prop
  | .exited .success, reached => reached = .served
  | .exited .failure, reached => reached.IsIdle
  | .undefined, reached => reached = .adrift
  | .serving, reached => reached = .serving

theorem keeps_serve :
    Keeps useSecureConnection .begun (serve useSecureConnection)
      fun status => Ends (.exited status) := by
  apply Watches.callThen (fun _ => rfl)
  intro _
  apply Watches.callThen (fun _ => rfl)
  intro up
  apply Watches.iteExcept
  · intro down
    rw [if_pos down]
    apply Watches.callThen (fun _ => rfl)
    intro _
    exact .pureExcept (.inr (.inl rfl))
  · intro isUp
    rw [if_neg isUp]
    apply Watches.bindExcept keeps_chosenCredentials
    intro credentials reached may
    apply Watches.callThen (fun _ => may.1 _)
    intro _
    apply Watches.bindExcept (keeps_runServer may)
    intro _ reached same
    exact .pureExcept same

theorem keeps_body (args : List Text) :
    Keeps (parseServerArgs args).2 .begun (body args)
      fun status => Ends (.exited status) := by
  unfold body
  cases parsed : parseServerArgs args with
  | mk outcome useSecureConnection =>
      cases outcome with
      | error message => exact .throwExcept (.inl rfl)
      | ok _ => exact keeps_serve

theorem keeps_main (args : List Text) :
    Watches (discipline (parseServerArgs args).2) .begun (main args) Ends := by
  apply Watches.askThen (fun _ => rfl)
  intro _
  apply Watches.bind (keeps_body args)
  intro outcome reached holds
  cases outcome with
  | ok status => exact .pure holds
  | error interruption =>
      cases interruption with
      | undefined => exact .pure holds
      | serving => exact .pure holds
      | runtimeError what =>
          have idle : reached.IsIdle := holds
          apply Watches.askThen (f := fun _ => reached)
          · intro _
            rcases idle with rfl | rfl | rfl
            · rfl
            · rfl
            · rfl
          · intro _
            exact .pure idle

theorem Ends.iff {ending : Ending} {reached : Stage} (ends : Ends ending reached) :
    (ending = .exited .success ↔ reached = .served) ∧
      (ending = .exited .failure ↔ reached.IsIdle) ∧
      (ending = .undefined ↔ reached = .adrift) ∧
      (ending = .serving ↔ reached = .serving) := by
  cases ending with
  | exited status =>
      cases status with
      | success =>
          obtain rfl : reached = .served := ends
          simp [Stage.IsIdle]
      | failure =>
          rcases ends with rfl | rfl | rfl
          · simp [Stage.IsIdle]
          · simp [Stage.IsIdle]
          · simp [Stage.IsIdle]
  | undefined =>
      obtain rfl : reached = .adrift := ends
      simp [Stage.IsIdle]
  | serving =>
      obtain rfl : reached = .serving := ends
      simp [Stage.IsIdle]

private theorem unserved_of_waitForIface {stage next : Stage} {up : Bool}
    (stepped : discipline useSecureConnection stage ⟨.waitForIface, up⟩ = some next) :
    stage ≠ .served ∧ next ≠ .served := by
  cases stage with
  | begun =>
      cases stepped
      cases up with
      | false => simp
      | true => simp
  | _ => cases stepped

private theorem unserved_of_readFile {stage next : Stage} {filename : Text}
    {content : Option Text}
    (stepped : discipline useSecureConnection stage ⟨.readFile filename, content⟩ =
      some next) :
    stage ≠ .served ∧ next ≠ .served := by
  cases stage with
  | online
  | trusting serverCA
  | certified serverCA servercert =>
      obtain ⟨-, same⟩ := Option.ite_none_right_eq_some.mp stepped
      cases same
      cases content with
      | none => simp
      | some text => simp
  | _ => cases stepped

private theorem unserved_of_buildAndStart {stage next : Stage} {address : Text}
    {credentials : Credentials} {started : Bool}
    (stepped : discipline useSecureConnection stage
      ⟨.buildAndStart address credentials, started⟩ = some next) :
    stage ≠ .served ∧ next ≠ .served := by
  cases stage with
  | online
  | keyed serverCA servercert serverkey =>
      obtain ⟨-, same⟩ := Option.ite_none_right_eq_some.mp stepped
      cases same
      simp
  | _ => cases stepped

private theorem served_iff_of_print {stage next : Stage} {line : Text}
    (stepped : discipline useSecureConnection stage ⟨.print line, ()⟩ = some next) :
    next = .served ↔ stage = .served := by
  cases stage with
  | built started =>
      obtain ⟨-, same⟩ := Option.ite_none_right_eq_some.mp stepped
      cases same
      cases started with
      | false => simp
      | true => simp
  | _ =>
      cases stepped
      exact Iff.rfl

private theorem served_iff_of_wait {stage next : Stage} {returned : Option Unit}
    (stepped : discipline useSecureConnection stage ⟨.wait, returned⟩ = some next) :
    stage ≠ .served ∧ (next = .served ↔ returned = some ()) := by
  cases stage with
  | listening =>
      cases stepped
      cases returned with
      | none => simp
      | some _ => simp
  | _ => cases stepped

/-- Only a call of `Wait` that returns ends the server. -/
theorem served_iff_of_discipline (stage : Stage) (exchange : Exchange Call Reply)
    (next : Stage)
    (stepped : discipline useSecureConnection stage exchange = some next) :
    next = .served ↔ stage = .served ∨ exchange = ⟨.wait, some ()⟩ := by
  obtain ⟨made, reply⟩ := exchange
  cases made with
  | waitForIface => simp [unserved_of_waitForIface stepped]
  | readFile filename => simp [unserved_of_readFile stepped]
  | buildAndStart address credentials => simp [unserved_of_buildAndStart stepped]
  | print line => simp [served_iff_of_print stepped]
  | wait => simp [served_iff_of_wait stepped]

/-- The server listens as its option says. -/
theorem listens_of_discipline {stage next : Stage} {address : Text}
    {credentials : Credentials} {started : Bool}
    (stepped : discipline useSecureConnection stage
      ⟨.buildAndStart address credentials, started⟩ = some next) :
    address = serverAddress ∧
      (credentials = .insecure ↔ useSecureConnection = false) := by
  cases stage with
  | online =>
      rw [discipline] at stepped
      split at stepped
      next asked => exact ⟨asked.2.1, iff_of_true asked.2.2 asked.1⟩
      next => cases stepped
  | keyed serverCA servercert serverkey =>
      rw [discipline] at stepped
      split at stepped
      next asked =>
        refine ⟨asked.2.1, iff_of_false ?_ ?_⟩
        · rw [asked.2.2]
          simp
        · simp [asked.1]
      next => cases stepped
  | _ => cases stepped

/-- One argument is enough to make the server secure. -/
theorem effects_server (args : List Text) :
    args.foldl (fun _ _ => true) true = true := by
  induction args with
  | nil => rfl
  | cons arg args induction => exact induction

theorem main_refused {message : Text} {args : List Text}
    (refused : (parseServerArgs args).1 = .error message)
    (world : World Call Reply) {exchange : Exchange Call Reply}
    (member : exchange ∈ ((main args).run world []).2) :
    ∃ line, exchange.1 = .print line := by
  have thrown : body args = throw (.runtimeError message) := by
    unfold body
    cases parsed : parseServerArgs args with
    | mk outcome useSecureConnection =>
        rw [parsed] at refused
        cases refused
        rfl
  rw [main, thrown] at member
  rcases List.mem_pair.mp member with rfl | rfl
  · exact ⟨_, rfl⟩
  · exact ⟨_, rfl⟩

/-- Whatever the outside replies, the server keeps to its order: it listens only at its
one address, with the three files read where its command line asks for security and
openly where it does not.  A server that has been started ends with success exactly when
`Wait` returns, and serves on else; it ends with a failure only where it has not tried to
start; and where it could not be started it has said that it listens all the same, and
nothing is known of the rest. -/
theorem server_as_asked (args : List Text) (world : World Call Reply) :
    ∃ stage, (discipline (parseServerArgs args).2).after .begun
        ((main args).run world []).2 = some stage ∧
      (((main args).run world []).1 = .exited .success ↔
        ⟨.wait, some ()⟩ ∈ ((main args).run world []).2) ∧
      (((main args).run world []).1 = .exited .failure ↔ stage.IsIdle) ∧
      (((main args).run world []).1 = .serving ↔ stage = .serving) ∧
      (((main args).run world []).1 = .undefined ↔ stage = .adrift) ∧
      ∀ address credentials started,
        ⟨.buildAndStart address credentials, started⟩ ∈
          ((main args).run world []).2 →
        address = serverAddress ∧ (credentials = .insecure ↔ args = []) := by
  obtain ⟨stage, accepted, ends⟩ := keeps_main args .begun world [] rfl
  obtain ⟨served, failed, undefined, serving⟩ := ends.iff
  have returned : stage = .served ↔
      ⟨.wait, some ()⟩ ∈ ((main args).run world []).2 := by
    constructor
    · intro isServed
      obtain ⟨exchange, member, rfl⟩ := exists_of_marked
        (fun stage exchange next stepped =>
          (served_iff_of_discipline stage exchange next stepped).mp)
        accepted isServed (by simp)
      exact member
    · intro member
      apply marked_of_mem (fun stage exchange next stepped holds =>
          (served_iff_of_discipline stage exchange next stepped).mpr holds.symm)
        accepted
      exact .inr ⟨_, member, rfl⟩
  refine ⟨stage, accepted, served.trans returned, failed, serving, undefined, ?_⟩
  intro address credentials started member
  cases outcome : (parseServerArgs args).1 with
  | error message =>
      obtain ⟨line, impossible⟩ := main_refused outcome world member
      cases impossible
  | ok _ =>
      obtain ⟨before, next, stepped⟩ := step_of_mem accepted member
      obtain ⟨same, plain⟩ := listens_of_discipline stepped
      refine ⟨same, plain.trans ?_⟩
      have all := (server_parsesBy.ok_iff false args).mp outcome
      rw [parseServerArgs, server_parsesBy.parseArgs_eq all]
      cases args with
      | nil => exact iff_of_true rfl rfl
      | cons arg args =>
          rw [List.foldl_cons, effects_server]
          simp

end Server

end KosCeExtra.Grpc
