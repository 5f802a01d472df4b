import ServerBrowser.Proofs.Discipline
import ServerBrowser.Proofs.Transport.Opening

/-!
# ServerBrowser.Proofs.Browser.Demands

What a query asks of its system that the system may refuse.  Each socket that the system makes gets
the time to wait of the client, and no other time limit is set; each one that accepts it is
connected to the host and the port of the client, and to no others; and whoever sleeps, sleeps for
the delay of the client.  That is `Scenario.Demands`.  Opening a datagram socket keeps to it
(`follows_connect`), and all else that a query does, but for its delays, demands nothing
(`Discipline.undemanding`); so whole queries keep to it (`listBatches_demands`).
-/

namespace ServerBrowser

open Scenario

namespace Scenario

variable {scenario : Scenario} {client : Client} {past since more : History}

/-- Whether a system makes a socket in the events that come after a history. -/
def Makes (scenario : Scenario) (past since : History) : Prop :=
  ∃ before socket, before ++ [.created socket] <+: since ∧
    scenario.create (past ++ before ++ [.created socket]) = .ok ()

/-- What a client demands of a system in the events that come after a history. -/
structure Demands (scenario : Scenario) (client : Client) (past since : History) : Prop where
  limited : ∀ socket seconds, .limited socket seconds ∈ since → seconds = client.settings.timeout
  makes_iff : scenario.Makes past since ↔
    ∃ socket, .limited socket client.settings.timeout ∈ since
  connected_iff : ∀ host port, (∃ socket, .connected socket host port ∈ since) ↔
    scenario.Makes past since ∧ Transport.limitFault? client.settings.timeout = none ∧
      client.master.split = .ok (host, port)
  slept : ∀ seconds, .slept seconds ∈ since → seconds = client.settings.retryDelay

theorem makes_append : scenario.Makes past (since ++ more) ↔
    scenario.Makes past since ∨ scenario.Makes (past ++ since) more := by
  constructor
  · rintro ⟨before, socket, hcreated, hmade⟩
    obtain hsince | ⟨between, rfl, hmore⟩ := moment_append hcreated
    · exact .inl ⟨before, socket, hsince, hmade⟩
    · exact .inr ⟨between, socket, hmore, by rwa [List.append_assoc past]⟩
  · rintro (⟨before, socket, hcreated, hmade⟩ | ⟨before, socket, hcreated, hmade⟩)
    · exact ⟨before, socket, hcreated.trans (List.prefix_append _ _), hmade⟩
    · refine ⟨since ++ before, socket, ?_, by rwa [← List.append_assoc]⟩
      rwa [List.append_assoc, List.prefix_append_right_inj]

/-- An event makes a socket if it is that of making one. -/
theorem makes_cons {event : Event} : scenario.Makes past (event :: more) ↔
    (∃ socket, event = .created socket ∧ scenario.create (past ++ [event]) = .ok ()) ∨
      scenario.Makes (past ++ [event]) more := by
  rw [← List.singleton_append, makes_append]
  refine or_congr_left ⟨?_, ?_⟩
  · rintro ⟨before, socket, hcreated, hmade⟩
    obtain ⟨rfl, rfl⟩ | ⟨between, -, hbetween⟩ := moment_cons hcreated
    · exact ⟨socket, rfl, by simpa using hmade⟩
    · exact absurd hbetween.length_le (by simp)
  · rintro ⟨socket, rfl, hmade⟩
    exact ⟨[], socket, List.prefix_rfl, by simpa using hmade⟩

theorem Demands.append (hsince : scenario.Demands client past since)
    (hmore : scenario.Demands client (past ++ since) more) :
    scenario.Demands client past (since ++ more) where
  limited socket seconds hmem :=
    (List.mem_append.1 hmem).elim (hsince.limited _ _) (hmore.limited _ _)
  makes_iff := by
    simp only [makes_append, hsince.makes_iff, hmore.makes_iff, List.mem_append, exists_or]
  connected_iff host port := by
    simp only [makes_append, List.mem_append, exists_or, hsince.connected_iff host port,
      hmore.connected_iff host port, or_and_right]
  slept seconds hmem := (List.mem_append.1 hmem).elim (hsince.slept _) (hmore.slept _)

end Scenario

/-! ## events that demand nothing -/

/-- Whether an event is a demand: on a system that makes a socket, on that socket, or on the clock
of those who sleep. -/
def Event.isDemand : Event → Bool
  | .created _ | .limited .. | .connected .. | .slept _ => true
  | _ => false

/-- Events that are no demands. -/
def History.Undemanding (more : History) : Prop :=
  ∀ event ∈ more, event.isDemand = false

namespace Scenario

variable {scenario : Scenario} {client : Client} {past more : History} {seconds : Binary64}

theorem not_makes_of_undemanding (h : more.Undemanding) : ¬ scenario.Makes past more := by
  rintro ⟨before, socket, hcreated, -⟩
  cases h _ (mem_of_moment hcreated)

@[simp] theorem not_makes_nil : ¬ scenario.Makes past [] :=
  not_makes_of_undemanding (by simp [History.Undemanding])

/-- Where nothing is demanded, there is nothing to keep to. -/
theorem Demands.of_undemanding (h : more.Undemanding) : scenario.Demands client past more where
  limited socket seconds hmem := by cases h _ hmem
  makes_iff := iff_of_false (not_makes_of_undemanding h) fun ⟨_, hmem⟩ => by cases h _ hmem
  connected_iff host port := iff_of_false (fun ⟨_, hmem⟩ => by cases h _ hmem)
    fun hmakes => not_makes_of_undemanding h hmakes.1
  slept seconds hmem := by cases h _ hmem

/-- Whoever sleeps for the delay of the client keeps to it. -/
theorem demands_slept (scenario : Scenario) (client : Client) (past : History) :
    scenario.Demands client past [.slept client.settings.retryDelay] where
  limited := by simp
  makes_iff := by simp [makes_cons]
  connected_iff := by simp [makes_cons]
  slept := by simp

end Scenario

/-- The actions that demand nothing. -/
def Discipline.undemanding : Discipline Play where
  Follows action := ∀ browser history, ∃ a browser' more,
    action browser history = ((a, browser'), history ++ more) ∧ more.Undemanding
  pure a browser history :=
    ⟨a, browser, [], by rw [List.append_nil]; rfl, by simp [History.Undemanding]⟩
  bind := by
    intro α β action next haction hnext browser history
    obtain ⟨a, browser₁, since, hplay, hsince⟩ := haction browser history
    obtain ⟨b, browser₂, more, hrest, hmore⟩ := hnext a browser₁ (history ++ since)
    refine ⟨b, browser₂, since ++ more, (play_bind hplay).trans ?_, fun event hmem =>
      (List.mem_append.1 hmem).elim (hsince event) (hmore event)⟩
    rw [hrest, List.append_assoc]

namespace Scenario

variable {scenario : Scenario} {client : Client}

theorem undemanding_note {event : Event} (h : event.isDemand = false) :
    Discipline.undemanding.Follows (note event : Play Unit) :=
  fun browser _ => ⟨(), browser, [event], rfl, by simpa [History.Undemanding] using h⟩

theorem undemanding_send (socket : DatagramSocket Nat) (packet : List UInt8) :
    Discipline.undemanding.Follows
      (socket.send (scenario.system : SystemSockets Play Nat) Scenario.log packet) := by
  cases hhandle : socket.handle with
  | none =>
      rw [DatagramSocket.send, hhandle]
      exact Discipline.undemanding.pure _
  | some handle =>
      intro browser history
      exact ⟨_, _, _, DatagramSocket.send_play hhandle packet,
        by simp [History.Undemanding, DatagramSocket.sending, Event.isDemand]⟩

theorem undemanding_receive (socket : DatagramSocket Nat) :
    Discipline.undemanding.Follows
      (socket.receive (scenario.system : SystemSockets Play Nat) Scenario.log) := by
  cases hhandle : socket.handle with
  | none =>
      rw [DatagramSocket.receive, hhandle]
      exact Discipline.undemanding.pure _
  | some handle =>
      intro browser history
      rw [DatagramSocket.receive_play hhandle]
      split <;> exact ⟨_, _, _, rfl, by simp [History.Undemanding, Event.isDemand]⟩

theorem undemanding_close (socket : DatagramSocket Nat) :
    Discipline.undemanding.Follows
      (discard (socket.close (scenario.system : SystemSockets Play Nat)) : Play Unit) := by
  have hclose : Discipline.undemanding.Follows
      (socket.close (scenario.system : SystemSockets Play Nat)) := by
    cases hhandle : socket.handle with
    | none =>
        rw [DatagramSocket.close, hhandle]
        exact Discipline.undemanding.pure _
    | some handle =>
        intro browser history
        exact ⟨_, _, _, DatagramSocket.close_play hhandle,
          by simp [History.Undemanding, Event.isDemand]⟩
  exact Discipline.undemanding.bind hclose fun _ => Discipline.undemanding.pure _

/-! ## the discipline of a client -/

/-- The actions that demand what a client demands. -/
def demanding (scenario : Scenario) (client : Client) : Discipline Play where
  Follows action := ∀ browser history, ∃ a browser' more,
    action browser history = ((a, browser'), history ++ more) ∧
      scenario.Demands client history more
  pure a browser history :=
    ⟨a, browser, [], by rw [List.append_nil]; rfl, .of_undemanding (by simp [History.Undemanding])⟩
  bind := by
    intro α β action next haction hnext browser history
    obtain ⟨a, browser₁, since, hplay, hsince⟩ := haction browser history
    obtain ⟨b, browser₂, more, hrest, hmore⟩ := hnext a browser₁ (history ++ since)
    refine ⟨b, browser₂, since ++ more, (play_bind hplay).trans ?_, hsince.append hmore⟩
    rw [hrest, List.append_assoc]

/-- Who demands nothing demands nothing else. -/
theorem follows_of_undemanding {α : Type} {action : Play α}
    (h : Discipline.undemanding.Follows action) : (demanding scenario client).Follows action := by
  intro browser history
  obtain ⟨a, browser', more, hplay, hmore⟩ := h browser history
  exact ⟨a, browser', more, hplay, .of_undemanding hmore⟩

/-- Opening a socket sets its time limit once the system has made it, and connects it once the limit
is set. -/
theorem follows_connect (scenario : Scenario) (client : Client) :
    (demanding scenario client).Follows (DatagramSocket.connect
      (scenario.system : SystemSockets Play Nat) Scenario.log client.master
      client.settings.timeout) := by
  intro browser history
  obtain ⟨result, more, hplay, hopens⟩ := DatagramSocket.connect_opens scenario client.master
    client.settings.timeout browser history
  refine ⟨result, browser, more, hplay, ?_⟩
  have hreleased (socket : Nat) (fault : Fault) :
      (DatagramSocket.released socket fault).Undemanding := by
    rw [DatagramSocket.released]
    split <;> simp [History.Undemanding, Event.isDemand]
  cases hopens with
  | unreadable => exact .of_undemanding (by simp [History.Undemanding])
  | uncreated split create =>
      exact ⟨by simp, by simp [makes_cons, create], by simp [makes_cons, create], by simp⟩
  | limitRefused split create limit =>
      exact ⟨by simp, by simp [makes_cons, create], by simp [limit], by simp⟩
  | portRefused split create limit =>
      exact ⟨by simp, by simp [makes_cons, create],
        by simp [makes_cons, create, limit, split, eq_comm], by simp⟩
  | opened split create limit =>
      exact ⟨by simp, by simp [makes_cons, create],
        by simp [makes_cons, create, limit, split, eq_comm], by simp⟩
  | unconnected split create limit =>
      refine Demands.append ⟨by simp, by simp [makes_cons, create],
        by simp [makes_cons, create, limit, split, eq_comm], by simp⟩ (.of_undemanding ?_)
      exact hreleased _ _

/-- What comes after it in the listings of the client demands nothing but delays. -/
theorem corresponds_demanding (scenario : Scenario) (client : Client) (batch : List String)
    (clock : Clock) :
    (scenario.surroundings scenario.datagram false clock : Surroundings Play _).Corresponds
      (demanding scenario client).alike ⟨client.master, batch, client.settings⟩
      (scenario.surroundings scenario.datagram false clock) where
  send socket _ packet _ := ⟨rfl, follows_of_undemanding (undemanding_send socket packet)⟩
  receive socket := ⟨rfl, follows_of_undemanding (undemanding_receive socket)⟩
  close socket := ⟨rfl, follows_of_undemanding (undemanding_close socket)⟩
  sleep := ⟨rfl, fun browser history => ⟨_, browser, _, rfl, demands_slept scenario client history⟩⟩
  cancel := .none
  log _ := ⟨rfl, follows_of_undemanding (undemanding_note rfl)⟩

end Scenario

/-- **The listings of a query demand what its client demands,** whatever the clock does, if nothing
can cancel them and their listener demands nothing. -/
theorem Browser.listBatches_demands (client : Client) (scenario : Scenario) (clock : Clock)
    {listener : Listener Play} (hlistener : ∀ page, Discipline.undemanding.Follows (listener page))
    (limit number : Nat) (total : Int) (batches : List (List String)) :
    (demanding scenario client).Follows (listBatches client
      (scenario.surroundings scenario.datagram false clock) listener limit number total batches) :=
  Discipline.follows_listBatches_of_connect client
    (fun batch => corresponds_demanding scenario client batch clock)
    (follows_connect scenario client) (fun page => follows_of_undemanding (hlistener page)) limit
    number total batches

end ServerBrowser
