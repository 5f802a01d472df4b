import ServerBrowser.Proofs.Transport.Datagram

/-!
# ServerBrowser.Proofs.Transport.Opening

How a datagram socket is opened over a scenario as an operating system.  `Opens` lists the ways in
which that may go, with all that happens on the way: the address cannot be read, the system makes no
socket, the socket refuses its time limit or the port, the system cannot connect it, or it is
opened.

A failure of the system is told as one of the transport, and the system socket is closed before.  A
refusal is no failure of the system: it is told as it is, and the system socket stays open
(`Opens.clean_or_refused`).  So opening a socket leaves the family exactly where the system makes
one that refuses the time limit or the port (`connect_isExpected_iff`), and there it leaves that
socket behind (`connect_failsCleanly_iff`).
-/

namespace ServerBrowser

open Scenario

namespace DatagramSocket

/-! ## the ways of opening -/

/-- What a system says of a socket that is being opened, as the datagram socket tells it. -/
def openFault (host : String) (port : Int) (fault : Fault) : Fault :=
  if fault.isSystem then .notOpened host port fault else fault

/-- What is done about a system socket that could not be prepared. -/
def released (socket : Nat) (fault : Fault) : History :=
  if fault.isSystem then [.closed socket] else []

/-- The history in which the system is asked to connect a socket that is being opened. -/
def asked (history : History) (host : String) (port : Int) (timeout : Binary64) : History :=
  history ++ [.created history.socketCount, .limited history.socketCount timeout,
    .connected history.socketCount host port]

/-- What the log says about a socket that was opened. -/
def openRecord (host : String) (port : Int) (timeout : Binary64) : Log.Record :=
  ⟨Log.socketLogger, Log.debug,
    s!"Opened UDP socket to {host}:{port} (timeout {timeout.fixed 1}s)"⟩

/-- The ways in which opening a socket may go: what comes of it, and what happens on the way. -/
inductive Opens (scenario : Scenario) (master : MasterAddress) (timeout : Binary64)
    (history : History) : Except Fault (DatagramSocket Nat) → History → Prop
  | unreadable {fault : Fault} (split : master.split = .error fault) :
    Opens scenario master timeout history (.error (.badMaster fault)) []
  | uncreated {host : String} {port : Int} {fault : Fault} (split : master.split = .ok (host, port))
    (create : scenario.create (history ++ [.created history.socketCount]) = .error fault) :
    Opens scenario master timeout history (.error (openFault host port fault))
      [.created history.socketCount]
  | limitRefused {host : String} {port : Int} {fault : Fault}
    (split : master.split = .ok (host, port))
    (create : scenario.create (history ++ [.created history.socketCount]) = .ok ())
    (limit : Transport.limitFault? timeout = some fault) :
    Opens scenario master timeout history (.error fault)
      [.created history.socketCount, .limited history.socketCount timeout]
  | portRefused {host : String} {port : Int} {fault : Fault}
    (split : master.split = .ok (host, port))
    (create : scenario.create (history ++ [.created history.socketCount]) = .ok ())
    (limit : Transport.limitFault? timeout = none)
    (refused : Transport.portFault? port = some fault) :
    Opens scenario master timeout history (.error fault)
      [.created history.socketCount, .limited history.socketCount timeout,
        .connected history.socketCount host port]
  | unconnected {host : String} {port : Int} {fault : Fault}
    (split : master.split = .ok (host, port))
    (create : scenario.create (history ++ [.created history.socketCount]) = .ok ())
    (limit : Transport.limitFault? timeout = none) (accepted : Transport.portFault? port = none)
    (connect : scenario.connect (asked history host port timeout) = .error fault) :
    Opens scenario master timeout history (.error (openFault host port fault))
      ([.created history.socketCount, .limited history.socketCount timeout,
        .connected history.socketCount host port] ++ released history.socketCount fault)
  | opened {host : String} {port : Int} (split : master.split = .ok (host, port))
    (create : scenario.create (history ++ [.created history.socketCount]) = .ok ())
    (limit : Transport.limitFault? timeout = none) (accepted : Transport.portFault? port = none)
    (connect : scenario.connect (asked history host port timeout) = .ok ()) :
    Opens scenario master timeout history (.ok ⟨host, port, timeout, some history.socketCount⟩)
      [.created history.socketCount, .limited history.socketCount timeout,
        .connected history.socketCount host port, .logged (openRecord host port timeout)]

/-- A time limit that is refused is no failure of the system, and leaves the family. -/
theorem limitFault?_leaves {seconds : Binary64} {fault : Fault}
    (h : Transport.limitFault? seconds = some fault) :
    fault.isSystem = false ∧ ¬ fault.IsExpected := by
  have hfault : fault = .limitNaN ∨ fault = .limitTooLarge ∨ fault = .limitNegative := by
    rw [Transport.limitFault?] at h
    split at h
    · exact .inl (Option.some.inj h).symm
    · split at h
      · exact .inr (.inl (Option.some.inj h).symm)
      · split at h
        · exact .inr (.inr (Option.some.inj h).symm)
        · cases h
  obtain rfl | rfl | rfl := hfault <;> exact ⟨rfl, by simp [Fault.IsExpected]; rfl⟩

/-- A port that is refused is no failure of the system, and leaves the family. -/
theorem portFault?_leaves {port : Int} {fault : Fault}
    (h : Transport.portFault? port = some fault) :
    fault.isSystem = false ∧ ¬ fault.IsExpected := by
  rw [Transport.portFault?] at h
  split at h
  · cases h
  · cases h
    exact ⟨rfl, by simp [Fault.IsExpected]; rfl⟩

variable {scenario : Scenario}

theorem create_play (scenario : Scenario) (browser : Browser) (history : History) :
    (scenario.system : SystemSockets Play Nat).create browser history =
      (((scenario.create (history ++ [.created history.socketCount])).map fun _ =>
        history.socketCount, browser), history ++ [.created history.socketCount]) := rfl

theorem prepare_play (scenario : Scenario) (socket : Nat) (host : String) (port : Int)
    (timeout : Binary64) (browser : Browser) (history : History) :
    prepare (scenario.system : SystemSockets Play Nat) socket host port timeout browser history =
      match Transport.limitFault? timeout with
      | some fault => ((.error fault, browser), history ++ [.limited socket timeout])
      | none =>
        ((match Transport.portFault? port with
          | some fault => .error fault
          | none => scenario.connect
              (history ++ [.limited socket timeout] ++ [.connected socket host port]), browser),
          history ++ [.limited socket timeout] ++ [.connected socket host port]) := by
  have hlimited : (scenario.system : SystemSockets Play Nat).setTimeout socket timeout browser
      history = ((match Transport.limitFault? timeout with
        | some fault => .error fault
        | none => .ok (), browser), history ++ [.limited socket timeout]) := rfl
  rw [prepare, play_bind hlimited]
  cases Transport.limitFault? timeout <;> rfl

/-- What comes of a socket that was prepared or refused, and what happens then. -/
def concluded (socket : Nat) (host : String) (port : Int) (timeout : Binary64) :
    Except Fault Unit → Except Fault (DatagramSocket Nat) × History
  | .ok () => (.ok ⟨host, port, timeout, some socket⟩, [.logged (openRecord host port timeout)])
  | .error fault => (.error (openFault host port fault), released socket fault)

/-- Opening a socket that the system has made goes on from its preparation. -/
theorem connect_play {master : MasterAddress} {host : String} {port : Int} {timeout : Binary64}
    {prepared : Except Fault Unit} {browser : Browser} {history history' : History}
    (hsplit : master.split = .ok (host, port))
    (hcreate : scenario.create (history ++ [.created history.socketCount]) = .ok ())
    (hprepare : prepare (scenario.system : SystemSockets Play Nat) history.socketCount host port
      timeout browser (history ++ [.created history.socketCount]) =
        ((prepared, browser), history')) :
    connect (scenario.system : SystemSockets Play Nat) Scenario.log master timeout browser history =
      (((concluded history.socketCount host port timeout prepared).1, browser),
        history' ++ (concluded history.socketCount host port timeout prepared).2) := by
  have hcreated := create_play scenario browser history
  rw [hcreate] at hcreated
  rw [connect, hsplit]
  refine (play_bind hcreated).trans ((play_bind hprepare).trans ?_)
  cases prepared with
  | ok => rfl
  | error fault =>
      rw [concluded, openFault, released]
      cases hsystem : fault.isSystem with
      | true => simp only [hsystem, if_true]; rfl
      | false => simp only [hsystem, Bool.false_eq_true, if_false, List.append_nil]; rfl

/-- **Opening a socket goes in one of these ways,** and changes no browser. -/
theorem connect_opens (scenario : Scenario) (master : MasterAddress)
    (timeout : Binary64) (browser : Browser) (history : History) :
    ∃ result more,
      connect (scenario.system : SystemSockets Play Nat) Scenario.log master timeout browser
        history = ((result, browser), history ++ more) ∧
      Opens scenario master timeout history result more := by
  cases hsplit : master.split with
  | error fault =>
      refine ⟨_, _, ?_, .unreadable hsplit⟩
      rw [connect, hsplit, List.append_nil]
      rfl
  | ok parts =>
      obtain ⟨host, port⟩ := parts
      cases hcreate : scenario.create (history ++ [.created history.socketCount]) with
      | error fault =>
          have hcreated := create_play scenario browser history
          rw [hcreate] at hcreated
          refine ⟨_, _, ?_, .uncreated hsplit hcreate⟩
          rw [connect, hsplit]
          exact play_bind hcreated
      | ok =>
          have hprepare := prepare_play scenario history.socketCount host port timeout browser
            (history ++ [.created history.socketCount])
          cases hlimit : Transport.limitFault? timeout with
          | some fault =>
              rw [hlimit] at hprepare
              have hplay := connect_play hsplit hcreate hprepare
              rw [concluded, openFault, released, (limitFault?_leaves hlimit).1,
                if_neg Bool.false_ne_true, if_neg Bool.false_ne_true] at hplay
              exact ⟨_, _, by simpa using hplay, .limitRefused hsplit hcreate hlimit⟩
          | none =>
              rw [hlimit] at hprepare
              cases haccepts : Transport.portFault? port with
              | some fault =>
                  rw [haccepts] at hprepare
                  have hplay := connect_play hsplit hcreate hprepare
                  rw [concluded, openFault, released, (portFault?_leaves haccepts).1,
                    if_neg Bool.false_ne_true, if_neg Bool.false_ne_true] at hplay
                  exact ⟨_, _, by simpa using hplay, .portRefused hsplit hcreate hlimit haccepts⟩
              | none =>
                  rw [haccepts] at hprepare
                  have hplay := connect_play hsplit hcreate hprepare
                  simp only [List.append_assoc, List.cons_append, List.nil_append] at hplay
                  cases hanswer : scenario.connect (asked history host port timeout) with
                  | error fault =>
                      rw [asked] at hanswer
                      simp only [hanswer, concluded] at hplay
                      exact ⟨_, _, by simpa using hplay,
                        .unconnected hsplit hcreate hlimit haccepts hanswer⟩
                  | ok =>
                      rw [asked] at hanswer
                      simp only [hanswer, concluded] at hplay
                      exact ⟨_, _, by simpa using hplay,
                        .opened hsplit hcreate hlimit haccepts hanswer⟩

/-! ## what is left of a socket that was not opened -/

/-- Whether every system socket that was made is closed afterwards. -/
def Releases (scenario : Scenario) (past since : History) : Prop :=
  ∀ before socket after, since = before ++ .created socket :: after →
    scenario.create (past ++ before ++ [.created socket]) = .ok () → .closed socket ∈ after

/-- Whether a socket that could not be opened is told as a failure of the transport, and leaves no
system socket open. -/
def FailsCleanly (scenario : Scenario) (past : History) :
    Except Fault (DatagramSocket Nat) → History → Prop
  | .ok _, _ => True
  | .error fault, since => fault.isTransport = true ∧ Releases scenario past since

/-- Where a system is asked for one socket only, that one is to be closed. -/
theorem releases_cons_iff {past rest : History} {socket : Nat}
    (hrest : ∀ other, .created other ∉ rest) :
    Releases scenario past (.created socket :: rest) ↔
      (scenario.create (past ++ [.created socket]) = .ok () → .closed socket ∈ rest) := by
  constructor
  · intro h hmade
    exact h [] socket rest rfl (by simpa using hmade)
  · intro h before other after hsince hmade
    obtain ⟨rfl, heq⟩ | ⟨more, rfl, hmore⟩ := List.cons_eq_append_iff.1 hsince
    · obtain ⟨hother, rfl⟩ := List.cons.inj heq
      cases hother
      exact h (by simpa using hmade)
    · exact absurd (hmore ▸ by simp) (hrest other)

/-- Whether a socket that the system makes for a server accepts the time limit, and can be connected
to the port. -/
def Accepts (scenario : Scenario) (master : MasterAddress) (timeout : Binary64)
    (history : History) : Prop :=
  ∀ host port, master.split = .ok (host, port) →
    scenario.create (history ++ [.created history.socketCount]) = .ok () →
      Transport.limitFault? timeout = none ∧ Transport.portFault? port = none

/-- A socket that the system makes for a server is accepted where its time limit and its port
are. -/
theorem accepts_iff {master : MasterAddress} {host : String} {port : Int} {timeout : Binary64}
    {history : History} (hsplit : master.split = .ok (host, port))
    (hcreate : scenario.create (history ++ [.created history.socketCount]) = .ok ()) :
    Accepts scenario master timeout history ↔
      Transport.limitFault? timeout = none ∧ Transport.portFault? port = none := by
  simp [Accepts, hsplit, hcreate]

variable {master : MasterAddress} {timeout : Binary64} {history more : History}
  {result : Except Fault (DatagramSocket Nat)}

/-- **A socket that is not opened leaves nothing, unless it is refused.**  A system socket that
accepts the time limit and the port is closed again where it cannot be connected; one that refuses
either stays open, and the refusal is told as it is. -/
theorem Opens.clean_or_refused
    (hcreate : ∀ history fault, scenario.create history = .error fault → fault.isSystem = true)
    (hconnect : ∀ history fault, scenario.connect history = .error fault → fault.isSystem = true)
    (h : Opens scenario master timeout history result more) :
    (Accepts scenario master timeout history ∧ FailsCleanly scenario history result more) ∨
      (¬ Accepts scenario master timeout history ∧
        (∃ fault, result = .error fault ∧ ¬ fault.IsExpected) ∧
        ¬ Releases scenario history more) := by
  cases h with
  | unreadable split =>
      refine .inl ⟨fun host port hparts => ?_, rfl, by simp [Releases]⟩
      cases split.symm.trans hparts
  | @uncreated host port fault split create =>
      refine .inl ⟨fun _ _ _ hmade => ?_, ?_, (releases_cons_iff (by simp)).2 fun hmade => ?_⟩
      · cases create.symm.trans hmade
      · rw [openFault, if_pos (hcreate _ _ create)]
        rfl
      · cases create.symm.trans hmade
  | limitRefused split create limit =>
      refine .inr ⟨?_, ⟨_, rfl, (limitFault?_leaves limit).2⟩, ?_⟩
      · simp [accepts_iff split create, limit]
      · simp [releases_cons_iff, create]
  | portRefused split create limit refused =>
      refine .inr ⟨?_, ⟨_, rfl, (portFault?_leaves refused).2⟩, ?_⟩
      · simp [accepts_iff split create, refused]
      · simp [releases_cons_iff, create]
  | unconnected split create limit accepted connect =>
      refine .inl ⟨(accepts_iff split create).2 ⟨limit, accepted⟩, ?_⟩
      simp only [openFault, released, hconnect _ _ connect, if_true]
      exact ⟨rfl, (releases_cons_iff (by simp)).2 (by simp)⟩
  | opened split create limit accepted =>
      exact .inl ⟨(accepts_iff split create).2 ⟨limit, accepted⟩, trivial⟩

/-- **Opening a socket leaves the family exactly where the system makes one that refuses the time
limit or the port.** -/
theorem connect_isExpected_iff (h : scenario.OfSystem) (master : MasterAddress)
    (timeout : Binary64) (browser : Browser) (history : History) :
    EndsExpectedly (connect (scenario.system : SystemSockets Play Nat) Scenario.log master timeout
      browser history).1.1 ↔ Accepts scenario master timeout history := by
  obtain ⟨result, more, hplay, hopens⟩ := connect_opens scenario master timeout browser history
  rw [hplay]
  obtain ⟨haccepts, hclean⟩ | ⟨hrefused, ⟨fault, rfl, hfault⟩, -⟩ :=
    hopens.clean_or_refused h.create h.connect
  · refine iff_of_true ?_ haccepts
    cases result with
    | ok => trivial
    | error fault => exact .inl (Fault.inFamily_of_isTransport hclean.1)
  · exact iff_of_false hfault hrefused

/-- **A socket that cannot be opened is told as a failure of the transport and leaves no system
socket open, exactly where the system makes none, or makes one that accepts the time limit and the
port.**  One that refuses either stays open, and the refusal is a fault outside the family. -/
theorem connect_failsCleanly_iff (scenario : Scenario)
    (hcreate : ∀ history fault, scenario.create history = .error fault → fault.isSystem = true)
    (hconnect : ∀ history fault, scenario.connect history = .error fault → fault.isSystem = true)
    (master : MasterAddress) (timeout : Binary64) (browser : Browser) (history : History) :
    ∃ result since,
      connect (scenario.system : SystemSockets Play Nat) Scenario.log master timeout browser
        history = ((result, browser), history ++ since) ∧
      (FailsCleanly scenario history result since ↔ Accepts scenario master timeout history) ∧
      (¬ Accepts scenario master timeout history →
        (∃ fault, result = .error fault ∧ fault.inFamily = false) ∧
          ¬ Releases scenario history since) := by
  obtain ⟨result, since, hplay, hopens⟩ := connect_opens scenario master timeout browser history
  refine ⟨result, since, hplay, ?_⟩
  obtain ⟨haccepts, hclean⟩ | ⟨hrefused, ⟨fault, rfl, hfault⟩, hopen⟩ :=
    hopens.clean_or_refused hcreate hconnect
  · exact ⟨iff_of_true hclean haccepts, fun hrefused => absurd haccepts hrefused⟩
  · refine ⟨iff_of_false (fun hclean => hopen hclean.2) hrefused, fun _ => ⟨⟨fault, rfl, ?_⟩, hopen⟩⟩
    exact Bool.eq_false_iff.2 fun hfamily => hfault (.inl hfamily)

/-- A system that makes sockets, and cannot connect them. -/
def unreachable : Scenario where
  create _ := .ok ()
  connect _ := .error (.ofNumber 101 "Network is unreachable")
  send _ := .ok ()
  receive _ := .error (.system none "timed out" true)
  isCancelled _ := false

/-- The system socket is closed when it could not be connected. -/
theorem connect_failsCleanly_iff_unreachable :
    (∀ history fault, unreachable.create history = .error fault → fault.isSystem = true) ∧
      (∀ history fault, unreachable.connect history = .error fault → fault.isSystem = true) ∧
      ∃ result since,
        connect (unreachable.system : SystemSockets Play Nat) Scenario.log (.text "10.0.0.1:27011") 1
          {} [] = ((result, {}), [] ++ since) ∧
        (FailsCleanly unreachable [] result since ↔
          Accepts unreachable (.text "10.0.0.1:27011") 1 []) ∧
        (¬ Accepts unreachable (.text "10.0.0.1:27011") 1 [] →
          (∃ fault, result = .error fault ∧ fault.inFamily = false) ∧
            ¬ Releases unreachable [] since) := by
  have hcreate : ∀ history fault, unreachable.create history = .error fault →
      fault.isSystem = true := by
    rintro history fault ⟨⟩
  have hconnect : ∀ history fault, unreachable.connect history = .error fault →
      fault.isSystem = true := by
    rintro history fault ⟨⟩
    rfl
  exact ⟨hcreate, hconnect, connect_failsCleanly_iff unreachable hcreate hconnect _ 1 {} []⟩

/-- It stays open when it refuses the port. -/
theorem connect_portRefused :
    connect (unreachable.system : SystemSockets Play Nat) Scenario.log (.pair "1.2.3.4" 70000) 1 {}
        [] = ((.error .portRange, {}),
          [.created 0, .limited 0 1, .connected 0 "1.2.3.4" 70000]) ∧
      ¬ FailsCleanly unreachable [] (.error .portRange)
        [.created 0, .limited 0 1, .connected 0 "1.2.3.4" 70000] ∧
      Fault.portRange.isTransport = false ∧
      ¬ Releases unreachable [] [.created 0, .limited 0 1, .connected 0 "1.2.3.4" 70000] := by
  have hopen : ¬ Releases unreachable []
      [.created 0, .limited 0 1, .connected 0 "1.2.3.4" 70000] := by
    simp [releases_cons_iff, unreachable]
  exact ⟨rfl, fun hclean => hopen hclean.2, rfl, hopen⟩

end DatagramSocket

end ServerBrowser
