import ServerBrowser.Proofs.Browser.Demands
import ServerBrowser.Proofs.Browser.Family

/-!
# ServerBrowser.Proofs.Browser.Refusals

How a query ends over a system that looks up its hosts and keeps its delays, where nothing can
cancel it and its listener hands the pages back as they are.  The system may refuse what is demanded
of it: a time limit, a host, a port, a delay (`Event.refusal?`).  It tells each refusal by a fault
that leaves the family, and nothing after it takes part in how the query ends; all other faults are
of the family.  So the listings of a query end in the family exactly where all that was demanded is
granted (`listBatches_heeds`).

`Heeds` says so of an action, and the rules follow its shape.  A step that begins with a delay which
is granted is one of the same world without delays (`Surroundings.restless`), and so are all other
steps; that world is one in which a listing is in the family as far as its transport is.
-/

namespace ServerBrowser

open Scenario

/-! ## what is granted -/

/-- Why a system refuses what is demanded of it, where it does. -/
def Event.refusal? (encodes : String → Bool) : Event → Option Fault
  | .limited _ seconds => Transport.limitFault? seconds
  | .connected _ host port => (Transport.portFault? port).or (Transport.hostFault? encodes host)
  | .slept seconds => Clock.system.sleepFault? seconds
  | _ => none

/-- Whether all that is demanded is granted. -/
def History.Granted (encodes : String → Bool) (more : History) : Prop :=
  ∀ event ∈ more, event.refusal? encodes = none

variable {encodes : String → Bool} {first more : History}

theorem History.granted_append :
    (first ++ more).Granted encodes ↔ first.Granted encodes ∧ more.Granted encodes :=
  List.forall_mem_append

/-- Where all that came first is granted, it is a matter of what comes after. -/
theorem History.granted_append_iff (h : first.Granted encodes) :
    (first ++ more).Granted encodes ↔ more.Granted encodes := by
  rw [History.granted_append, and_iff_right h]

theorem History.Undemanding.granted (h : more.Undemanding) : more.Granted encodes := by
  intro event hmem
  have hevent := h event hmem
  cases event <;> first | rfl | cases hevent

/-- What holds of the demands of a client holds of all that is granted to it. -/
theorem Scenario.Demands.granted_iff {scenario : Scenario} {client : Client} {past : History}
    (h : scenario.Demands client past more) :
    more.Granted encodes ↔
      (scenario.Makes past more → Transport.limitFault? client.settings.timeout = none ∧
        ∀ host port, client.master.split = .ok (host, port) →
          Transport.portFault? port = none ∧ Transport.hostFault? encodes host = none) ∧
      ((∃ seconds, .slept seconds ∈ more) →
        Clock.system.sleepFault? client.settings.retryDelay = none) := by
  constructor
  · intro hgranted
    refine ⟨fun hmakes => ?_, fun ⟨seconds, hslept⟩ => ?_⟩
    · obtain ⟨socket, hlimited⟩ := h.makes_iff.1 hmakes
      have hlimit : Transport.limitFault? client.settings.timeout = none := hgranted _ hlimited
      refine ⟨hlimit, fun host port hsplit => ?_⟩
      obtain ⟨socket, hconnected⟩ := (h.connected_iff host port).2 ⟨hmakes, hlimit, hsplit⟩
      exact Option.or_eq_none_iff.1 (hgranted _ hconnected)
    · obtain rfl := h.slept seconds hslept
      exact hgranted _ hslept
  · rintro ⟨hmakes, hslept⟩ event hmem
    cases event with
    | limited socket seconds =>
        obtain rfl := h.limited socket seconds hmem
        exact (hmakes (h.makes_iff.2 ⟨socket, hmem⟩)).1
    | connected socket host port =>
        obtain ⟨hmade, -, hsplit⟩ := (h.connected_iff host port).1 ⟨socket, hmem⟩
        exact Option.or_eq_none_iff.2 ((hmakes hmade).2 host port hsplit)
    | slept seconds =>
        obtain rfl := h.slept seconds hmem
        exact hslept ⟨_, hmem⟩
    | _ => rfl

/-- A host that is refused is no failure of the system, and leaves the family. -/
theorem Transport.hostFault?_leaves {host : String} {fault : Fault}
    (h : hostFault? encodes host = some fault) : fault.isSystem = false ∧ ¬ fault.IsExpected := by
  have hfault : fault = .hostEncoding ∨ fault = .hostNull := by
    rw [hostFault?] at h
    split at h
    · exact .inl (Option.some.inj h).symm
    · split at h
      · exact .inr (Option.some.inj h).symm
      · cases h
  obtain rfl | rfl := hfault <;> exact ⟨rfl, by simp [Fault.IsExpected]; rfl⟩

/-! ## actions that heed what is granted -/

/-- Whether an action ends with a result that is kept or with a fault of the family if all that it
demands is granted, and with a fault outside the family if not. -/
def Heeds {α : Type} (encodes : String → Bool) (kept : α → Prop) (action : Play (Except Fault α)) :
    Prop :=
  ∀ browser history, ∃ result browser' more,
    action browser history = ((result, browser'), history ++ more) ∧
      Ends (fun a => kept a ∧ more.Granted encodes)
        (fun fault => fault.IsExpected ↔ more.Granted encodes) result

namespace Heeds

variable {α β : Type} {kept : α → Prop} {then' : β → Prop}
  {action : Play (Except Fault α)}

/-- An action that demands nothing and ends in the family. -/
theorem of_undemanding (h : Yields action (Ends kept Fault.IsExpected))
    (hundemanding : Discipline.undemanding.Follows action) : Heeds encodes kept action := by
  intro browser history
  obtain ⟨result, browser', more, hplay, hmore⟩ := hundemanding browser history
  have hends := h browser history
  rw [hplay] at hends
  exact ⟨result, browser', more, hplay, hends.imp (fun _ hkept => ⟨hkept, hmore.granted⟩)
    fun _ hexpected => iff_of_true hexpected hmore.granted⟩

/-- A bind goes on from what is kept; a fault ends it. -/
theorem bind {next : Except Fault α → Play (Except Fault β)} (h : Heeds encodes kept action)
    (hok : ∀ a, kept a → Heeds encodes then' (next (.ok a)))
    (herror : ∀ fault browser history, ∃ browser' more,
      next (.error fault) browser history = ((.error fault, browser'), history ++ more) ∧
        more.Undemanding) :
    Heeds encodes then' (action >>= next) := by
  intro browser history
  obtain ⟨result, browser₁, first, hplay, hends⟩ := h browser history
  cases result with
  | ok a =>
      obtain ⟨result, browser₂, more, hnext, hrest⟩ := hok a hends.1 browser₁ (history ++ first)
      refine ⟨result, browser₂, first ++ more, ?_, ?_⟩
      · rw [play_bind hplay, hnext, List.append_assoc]
      · simpa only [History.granted_append_iff hends.2] using hrest
  | error fault =>
      obtain ⟨browser₂, more, hnext, hmore⟩ := herror fault browser₁ (history ++ first)
      refine ⟨.error fault, browser₂, first ++ more, ?_, ?_⟩
      · rw [play_bind hplay, hnext, List.append_assoc]
      · refine Iff.trans hends ?_
        rw [History.granted_append, and_iff_left hmore.granted]

/-- Before it, whatever demands nothing may be done. -/
theorem undemanding_bind {γ : Type} {before : Play γ} {next : γ → Play (Except Fault α)}
    (h : Discipline.undemanding.Follows before) (hnext : ∀ c, Heeds encodes kept (next c)) :
    Heeds encodes kept (before >>= next) := by
  intro browser history
  obtain ⟨c, browser₁, first, hplay, hfirst⟩ := h browser history
  obtain ⟨result, browser₂, more, hrest, hends⟩ := hnext c browser₁ (history ++ first)
  refine ⟨result, browser₂, first ++ more, ?_, ?_⟩
  · rw [play_bind hplay, hrest, List.append_assoc]
  · simpa only [History.granted_append_iff hfirst.granted] using hends

theorem ok {a : α} (h : kept a) : Heeds encodes kept (pure (.ok a)) :=
  fun browser history => ⟨.ok a, browser, [], by rw [List.append_nil]; rfl, h, by
    simp [History.Granted]⟩

theorem error {fault : Fault} (h : fault.IsExpected) : Heeds encodes kept (pure (.error fault)) :=
  fun browser history => ⟨.error fault, browser, [], by rw [List.append_nil]; rfl,
    iff_of_true h (by simp [History.Granted])⟩

end Heeds

/-- A fault is handed on. -/
theorem error_play {α : Type} (fault : Fault) (browser : Browser) (history : History) :
    ∃ browser' more, (pure (.error fault) : Play (Except Fault α)) browser history =
      ((.error fault, browser'), history ++ more) ∧ more.Undemanding :=
  ⟨browser, [], by rw [List.append_nil]; rfl, by simp [History.Undemanding]⟩

/-! ## steps -/

variable {S : Type} {listing : Listing} {world : Surroundings Play S} {socket : S}
  {state : Listing.State} {listener : Listener Play} {scenario : Scenario}

/-- A world without delays. -/
def Surroundings.restless (world : Surroundings Play S) : Surroundings Play S :=
  { world with sleep := fun _ => pure (.ok ()) }

namespace Listing

/-- A listing that nothing can cancel and that has no delays is never refused one. -/
theorem rests_restless (hcancel : world.cancel = none) : listing.Rests world.restless := by
  rintro fault (⟨-, browser, history, answer⟩ | ⟨signal, cancellable⟩)
  · cases answer
  · cases hcancel.symm.trans cancellable

/-- A step that does not continue has no delay. -/
theorem step_restless (h : state.phase ≠ .continuing) :
    listing.step world listener socket state = listing.step world.restless listener socket state := by
  rw [step, step, transition, transition]
  cases phase : state.phase with
  | continuing => exact absurd phase h
  | start | awaiting | delivering | done | failed => rfl

/-- A continuation begins with its delay. -/
theorem proceed_restless (hcancel : world.cancel = none) :
    (listing.proceed world socket state).run =
      world.sleep listing.settings.retryDelay >>= fun rested => match rested with
        | .error fault => pure (.error fault)
        | .ok () => (listing.proceed world.restless socket state).run := by
  have hpause : listing.pause world = ExceptT.mk (world.sleep listing.settings.retryDelay) := by
    rw [pause, hcancel]
  have hnone : listing.pause world.restless = pure () := by
    rw [pause, show world.restless.cancel = none from hcancel]
    rfl
  rw [proceed, proceed, hpause, hnone, pure_bind, ExceptT.run_bind]
  refine bind_congr fun rested => ?_
  cases rested <;> rfl

/-- What a transition heeds, its step heeds: a fault of the family ends the listing. -/
theorem heeds_settle
    (h : Heeds encodes (listing.Familiar world.restless)
      (listing.transition world listener socket state).run) :
    Heeds encodes (listing.Familiar world.restless)
      (listing.step world listener socket state) := by
  intro browser history
  obtain ⟨result, browser', more, hplay, hends⟩ := h browser history
  refine ⟨state.settle result, browser', more, step_play result hplay, ?_⟩
  cases result with
  | ok next => exact hends
  | error fault =>
      rw [State.settle, State.afterFault]
      split
      · next hfamily => exact ⟨listing.familiar_endedBy _ hfamily, hends.1 (.inl hfamily)⟩
      · exact hends

/-- A delivery of a page that is handed back as it is leads to a state of the family. -/
theorem yields_deliver (hlistener : ∀ page, Yields (listener page) (· = .ok page))
    (hrests : listing.Rests world) (phase : state.phase = .delivering)
    (h : listing.Familiar world state) :
    Yields (listing.step world listener socket state)
      (Ends (listing.Familiar world) fun _ => False) := by
  intro browser history
  obtain ⟨handed, browser', history', hlistens⟩ :=
    exists_play (listener state.page.servers) browser history
  have hback := hlistener state.page.servers browser history
  rw [hlistens] at hback
  cases hback
  have harrives : state.page.Arrives := by simpa only [Familiar, phase] using h
  rw [step_deliver phase hlistens, handedBack, settle_delivered]
  cases hlast : state.page.isLast with
  | true =>
      rw [delivered_of_isLast _ hlast]
      trivial
  | false =>
      have hleaves := Listener.leavesCursors_of_yields hlistener _ harrives hlast browser history
      rw [hlistens] at hleaves
      obtain ⟨last, hleft, hcursor⟩ := hleaves
      rw [delivered_of_getLast? hlast hleft]
      exact ⟨hcursor, hrests⟩

end Listing

/-! ## the world of a system -/

/-- The world of a system that looks up its hosts and keeps its delays, in which nothing is
cancelled. -/
abbrev Scenario.strict (scenario : Scenario) (encodes : String → Bool) :
    Surroundings Play (DatagramSocket Nat) :=
  (scenario.encoding encodes).timed (scenario.encoding encodes).datagram false

/-- Once a socket is opened, such a system fails in the family. -/
theorem Scenario.OfSystem.inFamily_encoding (h : scenario.OfSystem) (encodes : String → Bool) :
    ((scenario.encoding encodes).datagram : Transport Play _).InFamily :=
  ⟨(DatagramSocket.inFamily_datagram h).send, (DatagramSocket.inFamily_datagram h).receive⟩

/-- Without delays, nothing that it is asked then is a demand. -/
theorem Scenario.corresponds_restless (scenario : Scenario) (encodes : String → Bool)
    (listing : Listing) :
    (scenario.strict encodes).restless.Corresponds Discipline.undemanding.alike listing
      (scenario.strict encodes).restless where
  send socket _ packet _ := ⟨rfl, undemanding_send socket packet⟩
  receive socket := ⟨rfl, undemanding_receive socket⟩
  close socket := ⟨rfl, undemanding_close socket⟩
  sleep := ⟨rfl, Discipline.undemanding.pure _⟩
  cancel := .none
  log _ := ⟨rfl, undemanding_note rfl⟩

/-- Its clock grants a delay, or refuses it. -/
theorem Scenario.heeds_sleep (scenario : Scenario) (encodes : String → Bool) (seconds : Binary64) :
    Heeds encodes (fun _ => True) ((scenario.strict encodes).sleep seconds) := by
  intro browser history
  refine ⟨Clock.system.sleep seconds, browser, [.slept seconds], rfl, ?_⟩
  rw [Clock.sleep]
  cases hrefused : Clock.system.sleepFault? seconds with
  | none => simp [Ends, History.Granted, Event.refusal?, hrefused]
  | some fault =>
      have hdelay : Clock.system.delayFault? false seconds = some fault := hrefused
      have hleaves : ¬ fault.IsExpected := Clock.system_leaves hdelay
      simp [Ends, History.Granted, Event.refusal?, hrefused, hleaves]

/-- **Opening a socket leaves the family exactly where its time limit, its host or its port is
refused.** -/
theorem DatagramSocket.heeds_connect (hsystem : scenario.OfSystem) (encodes : String → Bool)
    (master : MasterAddress) (timeout : Binary64) :
    Heeds encodes (fun _ => True)
      ((scenario.strict encodes).transport.connect master timeout) := by
  intro browser history
  obtain ⟨result, more, hplay, hopens⟩ :=
    connect_opens (scenario.encoding encodes) master timeout browser history
  refine ⟨result, browser, more, hplay, ?_⟩
  have hrefused {host : String} {fault : Fault} (port : Int)
      (h : Transport.hostFault? encodes host = some fault) :
      (scenario.encoding encodes).connect (asked history host port timeout) = .error fault := by
    simp [encoding, asked, h]
  have hgranted {host : String} (port : Int) (h : Transport.hostFault? encodes host = none) :
      (scenario.encoding encodes).connect (asked history host port timeout) =
        scenario.connect (asked history host port timeout) := by
    simp [encoding, asked, h]
  have hexpected {host : String} {port : Int} {fault : Fault} (h : fault.isSystem = true) :
      (openFault host port fault).IsExpected := by
    rw [openFault, if_pos h]
    exact .inl rfl
  cases hopens with
  | unreadable => exact iff_of_true (.inl rfl) (by simp [History.Granted])
  | uncreated split create =>
      exact iff_of_true (hexpected (hsystem.create _ _ create))
        (by simp [History.Granted, Event.refusal?])
  | limitRefused split create limit =>
      exact iff_of_false (limitFault?_leaves limit).2
        (by simp [History.Granted, Event.refusal?, limit])
  | portRefused split create limit refused =>
      exact iff_of_false (portFault?_leaves refused).2
        (by simp [History.Granted, Event.refusal?, refused])
  | @unconnected host port fault split create limit accepted connect =>
      cases hhost : Transport.hostFault? encodes host with
      | some refusal =>
          rw [hrefused port hhost] at connect
          cases connect
          have hleaves := Transport.hostFault?_leaves hhost
          rw [openFault, if_neg (by simp [hleaves.1])]
          exact iff_of_false hleaves.2
            (by simp [History.Granted, Event.refusal?, accepted, hhost])
      | none =>
          rw [hgranted port hhost] at connect
          refine iff_of_true (hexpected (hsystem.connect _ _ connect)) ?_
          rw [released, if_pos (hsystem.connect _ _ connect)]
          simp [History.Granted, Event.refusal?, limit, accepted, hhost]
  | @opened host port split create limit accepted connect =>
      cases hhost : Transport.hostFault? encodes host with
      | some refusal =>
          rw [hrefused port hhost] at connect
          cases connect
      | none =>
          exact ⟨trivial, by simp [History.Granted, Event.refusal?, limit, accepted, hhost]⟩

/-! ## listings -/

section Listings

variable {client : Client} (hsystem : scenario.OfSystem)
  (hlistener : ∀ page, Yields (listener page) (· = .ok page))
  (hundemanding : ∀ page, Discipline.undemanding.Follows (listener page))

namespace Listing

variable {socket : DatagramSocket Nat}

include hsystem hlistener hundemanding

/-- **A step leads to a state of the family exactly where its delay is granted.** -/
theorem heeds_step (h : listing.Familiar (scenario.strict encodes).restless state) :
    Heeds encodes (listing.Familiar (scenario.strict encodes).restless)
      (listing.step (scenario.strict encodes) listener socket state) := by
  have hfamily := hsystem.inFamily_encoding encodes
  have hworld := (scenario.corresponds_restless encodes listing).matches
  have hrests : listing.Rests (scenario.strict encodes).restless := rests_restless rfl
  by_cases phase : state.phase = .continuing
  · refine heeds_settle ?_
    rw [transition_of_continuing listing _ listener socket phase, proceed_restless rfl]
    have hcursor : state.cursor.IsCursor := by
      simp only [Familiar, phase] at h
      exact h.1
    refine (scenario.heeds_sleep encodes _).bind (fun _ _ => ?_) error_play
    have hproceeds : Yields (listing.proceed (scenario.strict encodes).restless socket state).run
        (EndsInFamily (listing.Familiar (scenario.strict encodes).restless)) :=
      yields_proceed hfamily phase hcursor hrests
    exact .of_undemanding (hproceeds.mono fun _ hends => hends.imp (fun _ => id) fun _ => .inl)
      (Correspondence.rel_proceed hworld rfl state).2
  · rw [step_restless phase]
    refine .of_undemanding ?_
      (Correspondence.rel_step hworld rfl state fun _ page => ⟨rfl, hundemanding page⟩).2
    have hsteps : Yields (listing.step (scenario.strict encodes).restless listener socket state)
        (Ends (listing.Familiar (scenario.strict encodes).restless) fun _ => False) := by
      by_cases hdelivering : state.phase = .delivering
      · exact yields_deliver hlistener hrests hdelivering h
      · exact yields_step hfamily h hdelivering
    exact hsteps.mono fun _ hends => hends.imp (fun _ => id) fun _ => False.elim

theorem heeds_steps (h : listing.Familiar (scenario.strict encodes).restless state) (limit : Nat) :
    Heeds encodes (listing.Familiar (scenario.strict encodes).restless)
      (listing.steps (scenario.strict encodes) listener socket limit state) := by
  induction limit generalizing state with
  | zero =>
      rw [steps]
      split
      · exact .ok h
      · exact .error (.inr rfl)
  | succ limit ih =>
      rw [steps]
      split
      · exact .ok h
      · exact (heeds_step hsystem hlistener hundemanding h).bind (fun next hnext => ih hnext)
          error_play

/-- **A listing ends in the family exactly where all that it demands is granted.** -/
theorem heeds_run (listing : Listing) (limit : Nat) :
    Heeds encodes (fun _ => True)
      (listing.run (scenario.strict encodes) listener limit) := by
  refine .undemanding_bind (undemanding_note rfl) fun _ =>
    (DatagramSocket.heeds_connect hsystem encodes _ _).bind (fun socket _ => ?_) error_play
  have hinitial : listing.Familiar (scenario.strict encodes).restless listing.initial := trivial
  have hsteps : Heeds encodes (listing.Familiar (scenario.strict encodes).restless)
      (listing.steps (scenario.strict encodes) listener socket limit listing.initial) :=
    heeds_steps hsystem hlistener hundemanding hinitial limit
  refine hsteps.bind (fun final hfinal => ?_) fun fault browser history => ?_
  · refine .undemanding_bind (undemanding_close socket) fun _ =>
      .undemanding_bind (undemanding_note rfl) fun _ => ?_
    have hends := endsExpectedly_outcome hfinal
    cases houtcome : outcome final with
    | ok => exact .ok trivial
    | error fault =>
        rw [houtcome] at hends
        exact .error hends
  · have hcloses : Discipline.undemanding.Follows
        ((scenario.strict encodes).transport.close socket) := undemanding_close socket
    obtain ⟨_, browser', more, hclose, hmore⟩ := hcloses browser history
    exact ⟨browser', more, play_bind hclose, hmore⟩

end Listing

include hsystem hlistener hundemanding in
/-- **So do all listings of a query.** -/
theorem Browser.heeds_listBatches (client : Client) (limit number : Nat) (total : Int)
    (batches : List (List String)) :
    Heeds encodes (fun _ => True)
      (listBatches client (scenario.strict encodes) listener limit number total batches) := by
  induction batches generalizing number total with
  | nil => exact .ok trivial
  | cons batch rest ih =>
      rw [listBatches]
      have hremarks (records : List Log.Record) :
          Discipline.undemanding.Follows (records.forM (scenario.strict encodes).log) :=
        (Correspondence.forM (C := Discipline.undemanding.alike)
          (fun _ => ⟨rfl, undemanding_note rfl⟩) records).2
      refine .undemanding_bind (hremarks _) fun _ => .undemanding_bind (undemanding_note rfl)
        fun _ => (Listing.heeds_run hsystem hlistener hundemanding _ limit).bind
          (fun state _ => ih _ _) error_play

/-- Looking up hosts makes no difference to what is demanded. -/
theorem Scenario.Demands.of_encoding {past since : History}
    (h : (scenario.encoding encodes).Demands client past since) :
    scenario.Demands client past since :=
  ⟨h.limited, h.makes_iff, h.connected_iff, h.slept⟩

include hsystem hlistener hundemanding in
/-- **The listings of a query demand what its client demands, and end in the family exactly where
all of that is granted.** -/
theorem Browser.listBatches_isExpected_iff_granted (encodes : String → Bool) (client : Client)
    (limit : Nat) (batches : List (List String)) (browser : Browser) (history : History) :
    ∃ result browser' more,
      listBatches client (scenario.strict encodes) listener limit 1 0 batches browser history =
        ((result, browser'), history ++ more) ∧
      scenario.Demands client history more ∧
      (EndsExpectedly result ↔ more.Granted encodes) := by
  have hheeds : Heeds encodes (fun _ => True)
      (listBatches client (scenario.strict encodes) listener limit 1 0 batches) :=
    heeds_listBatches hsystem hlistener hundemanding client limit 1 0 batches
  obtain ⟨result, browser', more, hplay, hends⟩ := hheeds browser history
  obtain ⟨_, _, since, hsame, hdemands⟩ := listBatches_demands client (scenario.encoding encodes)
    .system hundemanding limit 1 0 batches browser history
  have hsince : history ++ since = history ++ more :=
    congrArg Prod.snd (hsame.symm.trans hplay)
  rw [List.append_cancel_left hsince] at hdemands
  refine ⟨result, browser', more, hplay, hdemands.of_encoding, ?_⟩
  cases result with
  | ok total => exact iff_of_true trivial hends.2
  | error fault => exact hends

end Listings

end ServerBrowser
