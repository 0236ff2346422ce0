import KosCeExtra.Library.Monitor
import KosCeExtra.Wifi.Client

/-!
# In what order the Wi-Fi client does what it does

A monitor follows the client from the scan to the end of the connection.  It knows what
`ADD_NETWORK` was answered with, and lets no other identifier be set up, selected or
disabled; it lets the socket be used only behind a status that says `COMPLETED`; and it
says how far the client has come where it ends early.  An identifier may be empty, and a
connection may be taken for left, as the connection manager reads a failed command as an
empty answer.
-/

namespace KosCeExtra.Wifi

open Dialogue Monitor

namespace Client

/-- How far the client has come, with the identifier that it has for its network: what
`ADD_NETWORK` was answered with, or nothing where this has failed. -/
inductive Stage where
  | begun
  | scanned
  | listed
  | added (networkId : Text)
  | named (networkId : Text)
  | keyed (networkId : Text)
  /-- a command was not answered with `OK`, and no network is selected -/
  | refused
  | selected (networkId : Text)
  | connected (networkId : Text)
  | dialling (networkId : Text)
  | dialled (networkId : Text) (error : Option Text)
  | sent (networkId : Text)
  | closing (networkId : Text)
  /-- the socket is gone -/
  | hungUp (networkId : Text)
  /-- the client is ended by an exception -/
  | stranded (networkId : Text)
  /-- the network could not be disabled -/
  | kept (networkId : Text)
  | disabled (networkId : Text)
  /-- a status does not say `COMPLETED` any more -/
  | left
  /-- no status could be had, which is taken for the same -/
  | unheard
  deriving DecidableEq, Repr

/-- The stage behind a command that is to be answered with `OK`. -/
def onOk (answer : Answer) (yes no : Stage) : Stage :=
  if commandResult answer = okText then yes else no

/-- What the client may do, by its configuration. -/
def discipline (config : Configuration) : Monitor Call Reply Stage
  | stage, ⟨.print _, _⟩ => some stage
  | .begun, ⟨.executeCommand cmd, answer⟩ =>
      if cmd = statusCommand then
        some .begun
      else if cmd = scanCommand then
        some (onOk answer .scanned .refused)
      else
        none
  | .scanned, ⟨.executeCommand cmd, _⟩ =>
      if cmd = scanResultsCommand then some .listed else none
  | .listed, ⟨.executeCommand cmd, answer⟩ =>
      if cmd = addNetworkCommand then some (.added (commandResult answer)) else none
  | .added networkId, ⟨.executeCommand cmd, answer⟩ =>
      if cmd = cStr (setNetworkCommand networkId "ssid".toList config.ssid) then
        some (onOk answer (.named networkId) .refused)
      else
        none
  | .named networkId, ⟨.executeCommand cmd, answer⟩ =>
      if cmd = cStr (setNetworkCommand networkId "psk".toList config.psk) then
        some (onOk answer (.keyed networkId) .refused)
      else
        none
  | .keyed networkId, ⟨.executeCommand cmd, answer⟩ =>
      if cmd = cStr (selectNetworkCommand networkId) then
        some (onOk answer (.selected networkId) .refused)
      else
        none
  | .selected networkId, ⟨.executeCommand cmd, answer⟩ =>
      if cmd = statusCommand then
        some (if getProperty (commandResult answer) wpaState = completed then
          .connected networkId else .selected networkId)
      else
        none
  | .connected networkId, ⟨.executeCommand cmd, answer⟩ =>
      if cmd = statusCommand then
        some (.connected networkId)
      else if config.serverIp = [] ∧ cmd = cStr (disableNetworkCommand networkId) then
        some (onOk answer (.disabled networkId) (.kept networkId))
      else
        none
  | .connected networkId, ⟨.parseAddress ip, legal⟩ =>
      if config.serverIp ≠ [] ∧ ip = config.serverIp then
        some (if legal = false then .stranded networkId else .dialling networkId)
      else
        none
  | .dialling networkId, ⟨.connect ip port, error⟩ =>
      if ip = config.serverIp ∧ port = config.serverPort then
        some (.dialled networkId error)
      else
        none
  | .dialled networkId none, ⟨.send message, _⟩ =>
      if message = hello then some (.sent networkId) else none
  | .dialled networkId (some _), ⟨.isOpen, isOpen⟩ =>
      some (if isOpen = false then .hungUp networkId else .closing networkId)
  | .sent networkId, ⟨.isOpen, isOpen⟩ =>
      some (if isOpen = false then .hungUp networkId else .closing networkId)
  | .closing networkId, ⟨.close, _⟩ => some (.hungUp networkId)
  | .hungUp networkId, ⟨.executeCommand cmd, answer⟩ =>
      if cmd = cStr (disableNetworkCommand networkId) then
        some (onOk answer (.disabled networkId) (.kept networkId))
      else
        none
  | .disabled networkId, ⟨.executeCommand cmd, answer⟩ =>
      if cmd = statusCommand then
        some (if getProperty (commandResult answer) wpaState ≠ completed then
            (if answer = .failure then .unheard else .left)
          else .disabled networkId)
      else
        none
  | .left, ⟨.executeCommand cmd, _⟩ =>
      if cmd = statusCommand then some .left else none
  | .unheard, ⟨.executeCommand cmd, _⟩ =>
      if cmd = statusCommand then some .unheard else none
  | _, _ => none

variable {config : Configuration} {stage : Stage} {networkId : Text}

/-- A part of the client keeps to the order, and an exception strands it. -/
abbrev Keeps (config : Configuration) (stage : Stage) (program : ClientProgram α)
    (Post : α → Stage → Prop) : Prop :=
  Watches (discipline config) stage program.run
    (Either Post fun _ reached => ∃ networkId, reached = .stranded networkId)

/-- A part of the connection manager keeps to it. -/
abbrev Manages (config : Configuration) (stage : Stage) (program : Wifi.Program α)
    (Post : α → Stage → Prop) : Prop :=
  Watches ((discipline config).within Call.executeCommand) stage program Post

theorem keeps_manage {program : Wifi.Program α} {Post : α → Stage → Prop}
    (manages : Manages config stage program Post) :
    Keeps config stage (manage program) Post :=
  .lift (.embed manages)

theorem keeps_print {line : Text} {next : Unit → ClientProgram α}
    {Post : α → Stage → Prop} (after : Keeps config stage (next ()) Post) :
    Keeps config stage (call (.print line) >>= next) Post := by
  apply Watches.callThen (f := fun _ => stage)
  · intro _
    rw [discipline]
  · intro _
    exact after

/-! ## The commands, one by one -/

theorem step_added (answer : Answer) :
    discipline config (.added networkId) ⟨.executeCommand
        (cStr (setNetworkCommand networkId "ssid".toList config.ssid)), answer⟩ =
      some (onOk answer (.named networkId) .refused) :=
  if_pos rfl

theorem step_named (answer : Answer) :
    discipline config (.named networkId) ⟨.executeCommand
        (cStr (setNetworkCommand networkId "psk".toList config.psk)), answer⟩ =
      some (onOk answer (.keyed networkId) .refused) :=
  if_pos rfl

theorem step_keyed (answer : Answer) :
    discipline config (.keyed networkId)
        ⟨.executeCommand (cStr (selectNetworkCommand networkId)), answer⟩ =
      some (onOk answer (.selected networkId) .refused) :=
  if_pos rfl

theorem step_selected (answer : Answer) :
    discipline config (.selected networkId)
        ⟨.executeCommand statusCommand, answer⟩ =
      some (if getProperty (commandResult answer) wpaState = completed then
        .connected networkId else .selected networkId) :=
  rfl

theorem step_disabled (answer : Answer) :
    discipline config (.disabled networkId)
        ⟨.executeCommand statusCommand, answer⟩ =
      some (if getProperty (commandResult answer) wpaState ≠ completed then
          (if answer = .failure then .unheard else .left)
        else .disabled networkId) :=
  rfl

/-! ## The connection manager -/

theorem manages_command {cmd : Text} {f : Answer → Stage}
    (steps : ∀ answer, discipline config stage ⟨.executeCommand (cStr cmd), answer⟩ =
      some (f answer)) :
    Manages config stage (runCommand cmd) fun result reached =>
      ∃ answer, result = commandResult answer ∧ reached = f answer := by
  apply Watches.askThen (f := f)
  · intro answer
    exact steps answer
  · intro answer
    exact .pure ⟨answer, rfl, rfl⟩

theorem manages_okCommand {cmd : Text} (yes no : Stage)
    (steps : ∀ answer, discipline config stage ⟨.executeCommand (cStr cmd), answer⟩ =
      some (onOk answer yes no)) :
    Manages config stage (runOkCommand cmd) fun done reached =>
      reached = if done = true then yes else no := by
  apply Watches.bind (manages_command steps)
  rintro result reached ⟨answer, rfl, rfl⟩
  apply Watches.pure
  simp only [decide_eq_true_eq]
  rfl

/-- Asking for the status where this changes nothing. -/
theorem manages_status (property : Text)
    (steps : ∀ answer, discipline config stage
      ⟨.executeCommand statusCommand, answer⟩ = some stage) :
    Manages config stage
      (getStatus >>= fun status => pure (getProperty status property))
      fun _ reached => reached = stage := by
  have plain : cStr statusCommand = statusCommand := by decide
  apply Watches.bind (manages_command (f := fun _ => stage) (by rwa [plain]))
  rintro result reached ⟨answer, -, rfl⟩
  exact .pure rfl

theorem manages_getNetworks :
    Manages config .begun getNetworks fun found reached =>
      reached = if found.1 = true then .listed else .refused := by
  apply Watches.bind
    (manages_okCommand .scanned .refused (fun _ => rfl))
  rintro started reached rfl
  apply Watches.ite
  · rintro rfl
    exact .pure rfl
  · intro isStarted
    rw [if_pos ((Bool.not_eq_false _).mp isStarted)]
    apply Watches.bind (manages_command (f := fun _ => .listed) (fun _ => rfl))
    rintro result reached ⟨answer, -, rfl⟩
    exact .pure rfl

/-- Where `Connect` says no, no network has been selected, or one has been and has not
completed its connection. -/
def Connects (done : Bool) (networkId : Text) (reached : Stage) : Prop :=
  if done = true then reached = .connected networkId
  else reached = .refused ∨ reached = .selected networkId

theorem manages_waitCompleted :
    Manages config (.selected networkId)
      (waitStatus wpaState defaultTimeout fun status => decide (status = completed))
      fun done reached => Connects done networkId reached := by
  apply Watches.poll (I := fun reached => reached = .selected networkId)
  · rintro reached rfl answer
    refine ⟨_, step_selected answer, ?_⟩
    simp only [statusVerdict, decide_eq_true_eq]
    by_cases isCompleted : getProperty (commandResult answer) wpaState = completed
    · rw [if_pos isCompleted, if_pos isCompleted]
      rfl
    · rw [if_neg isCompleted, if_neg isCompleted]
      rfl
  · rintro reached rfl
    exact .inr rfl
  · rfl

theorem manages_connectTo (manager : ConnectionManager)
    (ssid : manager.ssid = config.ssid) (psk : manager.psk = config.psk) :
    Manages config (.added manager.networkId) manager.connectTo
      fun done reached => Connects done manager.networkId reached := by
  rw [ConnectionManager.connectTo, ssid, psk]
  apply Watches.bind
    (manages_okCommand (.named manager.networkId) .refused step_added)
  rintro isNamed reached rfl
  apply Watches.ite
  · rintro rfl
    exact .pure (.inl rfl)
  · intro named
    rw [if_pos ((Bool.not_eq_false _).mp named)]
    apply Watches.bind
      (manages_okCommand (.keyed manager.networkId) .refused step_named)
    rintro isKeyed reached rfl
    apply Watches.ite
    · rintro rfl
      exact .pure (.inl rfl)
    · intro keyed
      rw [if_pos ((Bool.not_eq_false _).mp keyed)]
      apply Watches.bind
        (manages_okCommand (.selected manager.networkId) .refused step_keyed)
      rintro isSelected reached rfl
      apply Watches.ite
      · rintro rfl
        exact .pure (.inl rfl)
      · intro selected
        rw [if_pos ((Bool.not_eq_false _).mp selected)]
        exact manages_waitCompleted

theorem manages_connect {manager : ConnectionManager}
    (ssid : manager.ssid = config.ssid) (psk : manager.psk = config.psk) :
    Manages config .listed manager.connect fun result reached =>
      Connects result.1 result.2.networkId reached := by
  apply Watches.bind
    (manages_command (f := fun answer => .added (commandResult answer))
      (fun _ => rfl))
  rintro networkId reached ⟨answer, rfl, rfl⟩
  apply Watches.bind
    (manages_connectTo { manager with networkId := commandResult answer } ssid psk)
  intro done reached connects
  exact .pure connects

/-- The connection has been left, as far as the client can tell. -/
def Stage.IsAway (stage : Stage) : Prop :=
  stage = .left ∨ stage = .unheard

/-- Where `Disconnect` says no, the network could not be disabled, or it has been and
every status says that it is still connected. -/
def Disconnects (done : Bool) (networkId : Text) (reached : Stage) : Prop :=
  if done = true then reached.IsAway
  else reached = .kept networkId ∨ reached = .disabled networkId

theorem manages_waitLeft :
    Manages config (.disabled networkId)
      (waitStatus wpaState defaultTimeout fun status => decide (status ≠ completed))
      fun done reached => Disconnects done networkId reached := by
  apply Watches.poll (I := fun reached => reached = .disabled networkId)
  · rintro reached rfl answer
    refine ⟨_, step_disabled answer, ?_⟩
    simp only [statusVerdict, decide_eq_true_eq]
    by_cases isLeft : getProperty (commandResult answer) wpaState ≠ completed
    · rw [if_pos isLeft, if_pos isLeft]
      by_cases failed : answer = .failure
      · exact .inr (if_pos failed)
      · exact .inl (if_neg failed)
    · rw [if_neg isLeft, if_neg isLeft]
      rfl
  · rintro reached rfl
    exact .inr rfl
  · rfl

theorem manages_disconnect {manager : ConnectionManager}
    (steps : ∀ answer, discipline config stage
      ⟨.executeCommand (cStr (disableNetworkCommand manager.networkId)), answer⟩ =
        some (onOk answer (.disabled manager.networkId)
          (.kept manager.networkId))) :
    Manages config stage manager.disconnect
      fun done reached => Disconnects done manager.networkId reached := by
  apply Watches.bind (manages_okCommand _ _ steps)
  rintro isDisabled reached rfl
  apply Watches.ite
  · rintro rfl
    exact .pure (.inl rfl)
  · intro disabled
    rw [if_pos ((Bool.not_eq_false _).mp disabled)]
    exact manages_waitLeft

/-! ## The socket -/

/-- The network may be disabled. -/
def MayLeave (config : Configuration) (networkId : Text) (reached : Stage) : Prop :=
  ∀ answer, discipline config reached
      ⟨.executeCommand (cStr (disableNetworkCommand networkId)), answer⟩ =
    some (onOk answer (.disabled networkId) (.kept networkId))

private theorem disable_ne_status (networkId : Text) :
    cStr (disableNetworkCommand networkId) ≠ statusCommand := by
  intro same
  have first : (cStr (disableNetworkCommand networkId)).head? = some 'D' := rfl
  rw [same] at first
  cases first

private theorem mayLeave_connected (unnamed : config.serverIp = []) :
    MayLeave config networkId (.connected networkId) := by
  intro answer
  rw [discipline, if_neg (disable_ne_status networkId)]
  exact if_pos ⟨unnamed, rfl⟩

private theorem mayLeave_hungUp : MayLeave config networkId (.hungUp networkId) := by
  intro answer
  exact if_pos rfl

theorem keeps_openSocket (named : config.serverIp ≠ []) :
    Keeps config (.connected networkId)
      (openSocket config.serverIp config.serverPort)
      fun error reached => reached = .dialled networkId error := by
  apply Watches.callThen (f := fun legal =>
    if legal = false then .stranded networkId else .dialling networkId)
  · intro legal
    exact if_pos ⟨named, rfl⟩
  · intro legal
    apply Watches.iteExcept
    · rintro rfl
      exact .throwExcept ⟨networkId, rfl⟩
    · intro isLegal
      rw [if_neg isLegal]
      apply Watches.callThen (f := fun error => .dialled networkId error)
      · intro error
        exact if_pos ⟨rfl, rfl⟩
      · intro error
        exact keeps_print (.pureExcept rfl)

/-- The socket may be closed. -/
def MayHangUp (config : Configuration) (networkId : Text) (reached : Stage) : Prop :=
  ∀ isOpen, discipline config reached ⟨.isOpen, isOpen⟩ =
    some (if isOpen = false then .hungUp networkId else .closing networkId)

theorem keeps_sendMessage (error : Option Text) :
    Keeps config (.dialled networkId error) (sendMessage error hello)
      fun _ reached => MayHangUp config networkId reached := by
  apply Watches.iteExcept
  · intro failed
    cases error with
    | none => exact absurd rfl failed
    | some what => exact .pureExcept (fun _ => rfl)
  · intro noError
    obtain rfl : error = none := not_not.mp noError
    apply Watches.callThen (f := fun _ => .sent networkId)
    · intro failed
      rfl
    · intro failed
      exact keeps_print (.pureExcept (fun _ => rfl))

theorem keeps_closeSocket (may : MayHangUp config networkId stage) :
    Keeps config stage closeSocket fun _ reached => reached = .hungUp networkId := by
  apply Watches.callThen may
  intro isOpen
  apply Watches.iteExcept
  · rintro rfl
    exact .pureExcept rfl
  · intro open_
    rw [if_neg open_]
    apply Watches.callThen (f := fun _ => .hungUp networkId) (fun _ => rfl)
    intro failed
    exact keeps_print (.pureExcept rfl)

theorem keeps_greetServer :
    Keeps config (.connected networkId) (greetServer config)
      fun _ reached => MayLeave config networkId reached := by
  apply Watches.iteExcept
  · intro unnamed
    exact keeps_print (.pureExcept (mayLeave_connected unnamed))
  · intro named
    apply Watches.bindExcept (keeps_openSocket named)
    rintro error reached rfl
    apply Watches.bindExcept (keeps_sendMessage error)
    intro _ reached may
    apply Watches.of_imp (keeps_closeSocket may)
    intro outcome reached holds
    cases outcome with
    | error _ => exact holds
    | ok _ =>
        obtain rfl : reached = .hungUp networkId := holds
        exact mayLeave_hungUp

/-! ## The whole client -/

theorem keeps_printStatus
    (steps : ∀ answer, discipline config stage
      ⟨.executeCommand statusCommand, answer⟩ = some stage) :
    Keeps config stage printStatus fun _ reached => reached = stage := by
  apply Watches.bindExcept (keeps_manage (manages_status wpaState steps))
  rintro status reached rfl
  exact keeps_print (.pureExcept rfl)

/-- Where the client ends: behind the whole connection, or with a network that is in no
better state than it has to be. -/
def Ends (status : ExitStatus) (reached : Stage) : Prop :=
  match status with
  | .success => reached.IsAway
  | .failure => reached = .refused ∨ ∃ networkId, reached = .selected networkId ∨
      reached = .kept networkId ∨ reached = .disabled networkId

private theorem status_of_isAway (isAway : stage.IsAway) (answer : Answer) :
    discipline config stage ⟨.executeCommand statusCommand, answer⟩ = some stage := by
  rcases isAway with rfl | rfl
  · rfl
  · rfl

theorem keeps_leave {manager : ConnectionManager} (ssid : Text)
    (may : MayLeave config manager.networkId stage) :
    Keeps config stage (leave manager ssid) Ends := by
  apply Watches.bindExcept (keeps_manage (manages_disconnect may))
  intro left reached disconnects
  apply Watches.iteExcept
  · rintro rfl
    apply keeps_print
    apply Watches.pureExcept
    rcases disconnects with kept | disabled
    · exact .inr ⟨_, .inr (.inl kept)⟩
    · exact .inr ⟨_, .inr (.inr disabled)⟩
  · intro isLeft
    obtain rfl : left = true := (Bool.not_eq_false _).mp isLeft
    have isAway : reached.IsAway := disconnects
    apply keeps_print
    apply Watches.bindExcept (keeps_printStatus (status_of_isAway isAway))
    rintro _ reached rfl
    exact .pureExcept isAway

theorem keeps_visit {manager : ConnectionManager}
    (ssid : manager.ssid = config.ssid) (psk : manager.psk = config.psk) :
    Keeps config .listed (visit config manager) Ends := by
  apply Watches.bindExcept (keeps_manage (manages_connect ssid psk))
  rintro ⟨connected, manager⟩ reached connects
  apply Watches.iteExcept
  · rintro rfl
    apply keeps_print
    apply Watches.pureExcept
    rcases connects with refused | selected
    · exact .inl refused
    · exact .inr ⟨_, .inl selected⟩
  · intro isConnected
    obtain rfl : connected = true := (Bool.not_eq_false _).mp isConnected
    obtain rfl : reached = .connected manager.networkId := connects
    have steps : ∀ answer, discipline config (.connected manager.networkId)
        ⟨.executeCommand statusCommand, answer⟩ =
          some (.connected manager.networkId) := by
      intro answer
      rfl
    apply Watches.bindExcept (keeps_manage (manages_status "ssid".toList steps))
    rintro name reached rfl
    apply keeps_print
    apply Watches.bindExcept (keeps_printStatus steps)
    rintro _ reached rfl
    apply Watches.bindExcept keeps_greetServer
    intro _ reached may
    exact keeps_leave name may

theorem keeps_main : Keeps config .begun (main config) Ends := by
  apply keeps_print
  apply keeps_print
  apply keeps_print
  apply keeps_print
  apply Watches.bindExcept (keeps_printStatus (fun _ => rfl))
  rintro _ reached rfl
  apply keeps_print
  apply Watches.bindExcept (keeps_manage manages_getNetworks)
  rintro ⟨found, networkList⟩ reached rfl
  apply keeps_print
  apply keeps_print
  apply Watches.iteExcept
  · rintro rfl
    exact .pureExcept (.inl rfl)
  · intro isFound
    rw [if_pos ((Bool.not_eq_false _).mp isFound)]
    exact keeps_visit rfl rfl

/-- Whatever the outside replies, the client keeps to its order, with one and the same
identifier from the answer to `ADD_NETWORK` to `DISABLE_NETWORK` and the socket in
between; the identifier is empty where `ADD_NETWORK` has failed.  It ends with success
exactly when it has seen `COMPLETED`, has had the network disabled, and then got a
status without `COMPLETED` or none at all, however the socket has fared.  It is ended by
an exception exactly when it has seen `COMPLETED` and then finds the configured address
of the server to be none, with the network still connected; and in a failure it leaves
the network as it is. -/
theorem client_keeps_order (config : Configuration) (world : World Call Reply) :
    ∃ stage, (discipline config).after .begun
        ((main config).run.run world []).2 = some stage ∧
      (((main config).run.run world []).1 = .ok .success ↔
        stage = .left ∨ stage = .unheard) ∧
      (((main config).run.run world []).1 = .error .illegalAddress ↔
        ∃ networkId, stage = .stranded networkId) ∧
      (((main config).run.run world []).1 = .ok .failure ↔
        stage = .refused ∨ ∃ networkId, stage = .selected networkId ∨
          stage = .kept networkId ∨ stage = .disabled networkId) := by
  obtain ⟨stage, accepted, ends⟩ := keeps_main .begun world [] rfl
  refine ⟨stage, accepted, ?_⟩
  cases result : ((main config).run.run world []).1 with
  | error uncaught =>
      cases uncaught
      rw [result] at ends
      obtain ⟨networkId, rfl⟩ := ends
      simp
  | ok status =>
      rw [result] at ends
      cases status with
      | success =>
          rcases ends with rfl | rfl
          · simp
          · simp
      | failure =>
          rcases ends with rfl | ⟨networkId, rfl | rfl | rfl⟩
          · simp
          · simp
          · simp
          · simp

end Client

end KosCeExtra.Wifi
