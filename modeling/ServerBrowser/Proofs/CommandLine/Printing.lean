import ServerBrowser.Proofs.Browser.Conservation
import ServerBrowser.Proofs.CommandLine.Running
import ServerBrowser.Proofs.Listing.Brings
import ServerBrowser.Proofs.Transport.Opening

/-!
# ServerBrowser.Proofs.CommandLine.Printing

What is printed while a query runs over datagram sockets.  Each page that is decoded goes to the
printer in the step after, so a listing prints the servers of all packets that it decodes, each once
and in their order, wherever it ends (`run_prints`); a row of listings prints the servers of one
after those of the other, and counts them (`listBatches_prints`), and so does a query
(`query_prints`).

That a listing may be told to stop where it has not come to an end is left out: the steps that it
is given may be used up.  Nothing is said about what is on standard output then.
-/

namespace ServerBrowser

open Scenario

/-! ## pages and texts of a history -/

namespace History

/-- The pages of all packets that were received, in the order in which they came. -/
def arrivals (history : History) : List Page :=
  history.filterMap fun event => match event with
    | .received _ packet => (Response.parse packet).toOption
    | _ => none

variable {socket : Nat} {first second more : History}

theorem arrivals_append (first second : History) :
    (first ++ second).arrivals = first.arrivals ++ second.arrivals :=
  List.filterMap_append

theorem output_append (first second : History) :
    (first ++ second).output = first.output ++ second.output := by
  rw [output, List.filterMap_append, String.join_append]
  rfl

/-- Where all that happens is about one socket, all packets come over it. -/
theorem arrivals_of_alone
    (h : ∀ event ∈ more, ∀ other, event.socket? = some other → other = socket) :
    more.arrivals = more.decoded socket := by
  refine List.filterMap_congr fun event hevent => ?_
  cases event with
  | received other packet => simp [h _ hevent other rfl]
  | _ => rfl

/-- Where nothing is received there is no page. -/
theorem arrivals_eq_nil (h : ∀ socket packet, .received socket packet ∉ more) :
    more.arrivals = [] := by
  rw [arrivals, List.filterMap_eq_nil_iff]
  intro event hevent
  cases event with
  | received socket packet => exact absurd hevent (h socket packet)
  | _ => rfl

/-- Where nothing is printed there is no output. -/
theorem output_eq_empty (h : ∀ text, .printed text ∉ more) : more.output = "" := by
  rw [output, List.filterMap_eq_nil_iff.2, String.join_nil]
  intro event hevent
  cases event with
  | printed text => exact absurd hevent (h text)
  | _ => rfl

theorem Own.output (h : Own socket more) : more.output = "" :=
  output_eq_empty fun text hmem => by cases h _ hmem

theorem Said.output (h : more.Said) : more.output = "" :=
  output_eq_empty fun text hmem => by
    obtain ⟨record, hrecord⟩ := h _ hmem
    cases hrecord

theorem Said.arrivals (h : more.Said) : more.arrivals = [] :=
  arrivals_eq_nil fun _ _ hmem => by
    obtain ⟨record, hrecord⟩ := h _ hmem
    cases hrecord

end History

namespace CommandLine

theorem pageText_append (first second : List ServerAddress) :
    pageText (first ++ second) = pageText first ++ pageText second := by
  rw [pageText, List.map_append, String.join_append]
  rfl

end CommandLine

open CommandLine (pageText pageText_append printer)

/-! ## getting sockets ready -/

/-- Whether an event may be one of getting a socket ready or of giving it up, or a word of the
log. -/
def Event.prepares (socket : Nat) : Event → Bool
  | .created other | .limited other _ | .connected other .. | .closed other => other = socket
  | .logged _ => true
  | _ => false

/-- Events of getting a socket ready and of giving it up. -/
def History.Prepares (socket : Nat) (more : History) : Prop :=
  ∀ event ∈ more, event.prepares socket = true

theorem History.Prepares.decoded {socket : Nat} {more : History} (h : Prepares socket more)
    (other : Nat) : more.decoded other = [] :=
  decoded_eq_nil fun _ hmem => by cases h _ hmem

theorem History.Prepares.output {socket : Nat} {more : History} (h : Prepares socket more) :
    more.output = "" :=
  output_eq_empty fun _ hmem => by cases h _ hmem

namespace DatagramSocket.Opens

variable {scenario : Scenario} {master : MasterAddress} {timeout : Binary64}
  {history more : History} {result : Except Fault (DatagramSocket Nat)}

theorem prepares (h : Opens scenario master timeout history result more) :
    more.Prepares history.socketCount := by
  cases h with
  | unconnected =>
      rw [released]
      split <;> simp [History.Prepares, Event.prepares]
  | _ => simp [History.Prepares, Event.prepares]

/-- Where the address is one that can be read, the system is asked for one socket. -/
theorem socketCount (h : Opens scenario master timeout history result more)
    {parts : String × Int} (hsplit : master.split = .ok parts) : more.socketCount = 1 := by
  cases h with
  | unreadable split => cases hsplit.symm.trans split
  | unconnected =>
      rw [released]
      split <;> rfl
  | _ => rfl

theorem handle {socket : DatagramSocket Nat}
    (h : Opens scenario master timeout history (.ok socket) more) :
    socket.handle = some history.socketCount := by
  cases h
  rfl

end DatagramSocket.Opens

variable {scenario : Scenario} {listing : Listing} {handle : Nat} {browser : Browser}
  {past since more history : History} {pages : List (List ServerAddress)}

namespace Listing

/-! ## steps over a datagram socket -/

/-- **A datagram socket that is open speaks for a listing.** -/
theorem speaks_datagram {socket : DatagramSocket Nat} (hopen : socket.handle = some handle) :
    listing.Speaks scenario.console.world socket handle where
  uncancelled := rfl
  send packet hpacket browser history := by
    refine ⟨_, socket.sending handle packet, DatagramSocket.send_play hopen packet, ⟨?_, ?_⟩, rfl⟩
    · simp [History.Own, DatagramSocket.sending, Event.isOwn]
    · simp [DatagramSocket.sending, hpacket]
  receive browser history := by
    have hplay : (scenario.datagram.receive socket : Play _) browser history = _ :=
      DatagramSocket.receive_play hopen
    cases hanswer : scenario.receive
        (history ++ [.awaited handle (some DatagramSocket.receiveLimit)]) with
    | error fault =>
        rw [hanswer] at hplay
        refine ⟨_, _, hplay, .of_own ?_ (by simp), rfl⟩
        simp [History.Own, Event.isOwn]
    | ok packet =>
        rw [hanswer] at hplay
        refine ⟨_, _, hplay, .of_own ?_ (by simp), ?_⟩
        · simp [History.Own, Event.isOwn]
        · cases hparse : Response.parse packet <;>
            simp [History.decoded, pages?, hparse, Except.toOption]
  sleep seconds browser history :=
    ⟨.ok (), [.slept seconds], rfl, .of_own (by simp [History.Own, Event.isOwn]) (by simp), rfl⟩
  log record browser history :=
    ⟨(), [.logged record], rfl, .of_own (by simp [History.Own, Event.isOwn]) (by simp), rfl⟩

/-- What a listing adds whose pages are printed: what it says and hears, and texts that are
printed. -/
def Utters (listing : Listing) (handle : Nat) (more : History) : Prop :=
  ∀ event ∈ more, (event.isOwn handle = true ∧
    ∀ packet, event = .sent handle packet → listing.Writes packet) ∨ ∃ text, event = .printed text

theorem Utters.append {first : History} (hfirst : listing.Utters handle first)
    (hmore : listing.Utters handle more) : listing.Utters handle (first ++ more) :=
  fun event hevent => (List.mem_append.1 hevent).elim (hfirst event) (hmore event)

theorem Says.utters (h : listing.Says handle more) : listing.Utters handle more :=
  fun event hevent => .inl ⟨h.1 event hevent, fun packet hsent => h.2 packet (hsent ▸ hevent)⟩

theorem Utters.socketCount (h : listing.Utters handle more) : more.socketCount = 0 := by
  rw [History.socketCount, List.countP_eq_zero]
  intro event hevent
  obtain ⟨hown, -⟩ | ⟨text, rfl⟩ := h event hevent
  · cases event <;> simp_all [Event.isOwn]
  · simp

/-- What has happened on a socket so far, and what has been printed: the servers of the pages that
have been handed on. -/
structure Prints (listing : Listing) (handle : Nat) (since : History)
    (pages : List (List ServerAddress)) : Prop where
  utters : listing.Utters handle since
  output : since.output = pageText pages.flatten

theorem prints_nil : listing.Prints handle [] [] where
  utters := by simp [Utters]
  output := rfl

theorem Prints.says (h : listing.Prints handle since pages) (hmore : listing.Says handle more) :
    listing.Prints handle (since ++ more) pages where
  utters := h.utters.append hmore.utters
  output := by
    have hnone : more.output = "" := hmore.1.output
    rw [History.output_append, h.output, hnone, String.append_empty]

/-- A page that is printed has been handed on. -/
theorem Prints.page (h : listing.Prints handle since pages) (page : List ServerAddress) :
    listing.Prints handle (since ++ [.printed (pageText page)]) (pages ++ [page]) where
  utters := h.utters.append (by simp [Utters])
  output := by
    have hone : History.output [.printed (pageText page)] = pageText page := by
      simp [History.output]
    rw [History.output_append, h.output, hone, List.flatten_append, pageText_append,
      List.flatten_singleton]

variable {socket : DatagramSocket Nat} {state : State}

/-- What has been handed on is a matter of the packets on the socket. -/
theorem Gathers.append (h : Gathers handle since pages state) (hmore : more.decoded handle = []) :
    Gathers handle (since ++ more) pages state := by
  have hsame : (since ++ more).decoded handle = since.decoded handle := by
    rw [History.decoded_append, hmore, List.append_nil]
  simpa only [Gathers, Waits, History.IsComplete, hsame] using h

/-- **A step prints the page that it delivers,** and nothing else. -/
theorem Prints.step (h : listing.Prints handle since pages) (hgathers : Gathers handle since pages
    state) (hopen : socket.handle = some handle) (hfinished : state.isFinished = false)
    (scenario : Scenario) (browser : Browser) (past : History) :
    ∃ result pages' more,
      listing.step scenario.console.world (printer scenario.console) socket state browser
        (past ++ since) = ((result, browser), past ++ (since ++ more)) ∧
      listing.Prints handle (since ++ more) pages' ∧
      Scenario.Ends (Gathers handle (since ++ more) pages')
        (fun _ => Waits handle (since ++ more) pages') result := by
  by_cases hphase : state.phase = .delivering
  · obtain ⟨next, hdelivered, hnext⟩ := hgathers.delivered listing hphase
    have hprinted : printer scenario.console state.page.servers browser (past ++ since) =
        ((.ok state.page.servers, browser),
          past ++ since ++ [.printed (pageText state.page.servers)]) := rfl
    have hstep : listing.step scenario.console.world (printer scenario.console) socket state browser
        (past ++ since) = _ := step_deliver hphase hprinted
    rw [handedBack, settle_delivered, hdelivered, List.append_assoc] at hstep
    exact ⟨_, _, _, hstep, h.page state.page.servers, hnext.append rfl⟩
  · obtain ⟨result, more, hstep, hsays, hadvances⟩ :=
      (speaks_datagram hopen).brings_step (printer scenario.console) hfinished hphase browser
        (past ++ since)
    rw [List.append_assoc] at hstep
    exact ⟨result, pages, more, hstep, h.says hsays,
      hadvances.gathers (hgathers.waits hfinished hphase) hgathers.1 rfl⟩

/-- The steps of a listing print what they hand on.  Where they are used up nothing is known of what
is still to be handed on. -/
theorem Prints.steps (h : listing.Prints handle since pages) (hgathers : Gathers handle since pages
    state) (hopen : socket.handle = some handle) (scenario : Scenario) (limit : Nat)
    (browser : Browser) (past : History) :
    ∃ result pages' more,
      listing.steps scenario.console.world (printer scenario.console) socket limit state browser
        (past ++ since) = ((result, browser), past ++ (since ++ more)) ∧
      listing.Prints handle (since ++ more) pages' ∧
      (result ≠ .error .exhausted →
        Scenario.Ends (fun final => final.isFinished = true ∧
            Gathers handle (since ++ more) pages' final)
          (fun _ => Waits handle (since ++ more) pages') result) := by
  induction limit generalizing state pages since with
  | zero =>
      cases hfinished : state.isFinished with
      | true =>
          refine ⟨_, pages, [], by rw [List.append_nil, steps_of_finished hfinished], ?_, ?_⟩
          · rwa [List.append_nil]
          · rw [List.append_nil]
            exact fun _ => ⟨hfinished, hgathers⟩
      | false =>
          refine ⟨_, pages, [], by rw [List.append_nil, steps_zero hfinished], ?_, ?_⟩
          · rwa [List.append_nil]
          · exact fun hleft => absurd rfl hleft
  | succ limit ih =>
      cases hfinished : state.isFinished with
      | true =>
          refine ⟨_, pages, [], by rw [List.append_nil, steps_of_finished hfinished], ?_, ?_⟩
          · rwa [List.append_nil]
          · rw [List.append_nil]
            exact fun _ => ⟨hfinished, hgathers⟩
      | false =>
          obtain ⟨result, pages', more, hstep, hprints, hends⟩ :=
            h.step hgathers hopen hfinished scenario browser past
          cases result with
          | error fault =>
              exact ⟨_, pages', more, steps_of_error hfinished hstep, hprints, fun _ => hends⟩
          | ok next =>
              obtain ⟨result, pages'', later, hsteps, hlater, hends⟩ := ih hprints hends
              rw [List.append_assoc] at hsteps hlater hends
              exact ⟨result, pages'', more ++ later, (steps_of_ok hfinished hstep).trans hsteps,
                hlater, hends⟩

/-! ## listings over a datagram socket -/

/-- What a whole listing has printed: the servers of the pages that it has handed on. -/
structure Printed (listing : Listing) (socket : Nat) (since : History)
    (pages : List (List ServerAddress)) (result : Except Fault State) : Prop
    extends Gathered socket since pages result where
  asked : ∀ other packet, .sent other packet ∈ since → listing.Writes packet
  output : since.output = pageText pages.flatten
  unreported : ∀ text, .reported text ∉ since

/-- Getting a socket ready and giving it up has no part in what is printed. -/
theorem Prints.enclosed {first last : History} {result : Except Fault State}
    (h : listing.Prints handle since pages) (hfirst : first.Prepares handle)
    (hopened : first.socketCount = 1) (hlast : last.Prepares handle)
    (hclosed : last.socketCount = 0)
    (hover : pages = (since.decoded handle).map Page.servers ∧
      Scenario.Ends (fun final : State =>
          final.serversDelivered = pages.flatten.length ∧ since.IsComplete handle)
        (fun _ => ¬ since.IsComplete handle) result) :
    listing.Printed handle (first ++ since ++ last) pages result := by
  have hdecoded : (first ++ since ++ last).decoded handle = since.decoded handle := by
    rw [History.decoded_append, History.decoded_append, hfirst.decoded, hlast.decoded,
      List.nil_append, List.append_nil]
  have hkind : ∀ event ∈ first ++ since ++ last, event.prepares handle = true ∨
      (event.isOwn handle = true ∧ ∀ packet, event = .sent handle packet → listing.Writes packet) ∨
      ∃ text, event = .printed text := by
    intro event hevent
    obtain hevent | hevent := List.mem_append.1 hevent
    · exact (List.mem_append.1 hevent).imp (hfirst event) (h.utters event)
    · exact .inl (hlast event hevent)
  refine ⟨⟨?_, ?_, ?_, ?_⟩, ?_, ?_, ?_⟩
  · rw [History.socketCount_append, History.socketCount_append, hopened, h.utters.socketCount,
      hclosed]
  · intro event hevent other habout
    obtain hprepares | ⟨hown, -⟩ | ⟨text, rfl⟩ := hkind event hevent
    · cases event <;> simp_all [Event.prepares, Event.socket?]
    · cases event <;> simp_all [Event.isOwn, Event.socket?]
    · cases habout
  · rw [hdecoded]
    exact hover.1
  · simp only [History.IsComplete, hdecoded]
    exact hover.2
  · intro other packet hsent
    obtain hprepares | ⟨hown, hwrites⟩ | ⟨text, htext⟩ := hkind _ hsent
    · cases hprepares
    · obtain rfl : other = handle := by simpa [Event.isOwn] using hown
      exact hwrites packet rfl
    · cases htext
  · rw [History.output_append, History.output_append, hfirst.output, hlast.output, h.output,
      String.empty_append, String.append_empty]
  · intro text hreported
    obtain hprepares | ⟨hown, -⟩ | ⟨text, htext⟩ := hkind _ hreported
    · cases hprepares
    · cases hown
    · cases htext

/-- A listing that gets no socket ends with the fault of opening it. -/
theorem run_of_connect_error {cancellable : Bool} {listener : Listener Play} {limit : Nat}
    {browser' : Browser} {history' : History} {fault : Fault}
    (h : DatagramSocket.connect (scenario.system : SystemSockets Play Nat) Scenario.log
      listing.master listing.settings.timeout browser (history ++ [.logged listing.startRecord]) =
        ((.error fault, browser'), history')) :
    listing.run (scenario.surroundings scenario.datagram cancellable) listener limit browser
      history = ((.error fault, browser'), history') :=
  (play_bind (log_play listing.startRecord)).trans (play_bind h)

/-- A listing that gets a socket takes its steps over it and closes it. -/
theorem run_of_connect_ok {cancellable : Bool} {listener : Listener Play} {limit : Nat}
    {browser' browser'' : Browser} {history' history'' : History} {result : Except Fault State}
    (h : DatagramSocket.connect (scenario.system : SystemSockets Play Nat) Scenario.log
      listing.master listing.settings.timeout browser (history ++ [.logged listing.startRecord]) =
        ((.ok socket, browser'), history'))
    (hopen : socket.handle = some handle)
    (hsteps : listing.steps (scenario.surroundings scenario.datagram cancellable) listener socket
      limit listing.initial browser' history' = ((result, browser''), history'')) :
    listing.run (scenario.surroundings scenario.datagram cancellable) listener limit browser
      history = ((result.bind outcome, browser''), history'' ++ listing.closing handle result) := by
  have hclose : (scenario.datagram.close socket : Play Unit) browser'' history'' =
      (((), browser''), history'' ++ [.closed handle]) := by
    show (discard (DatagramSocket.close (scenario.system : SystemSockets Play Nat) socket) :
      Play Unit) browser'' history'' = _
    rw [DatagramSocket.close, hopen]
    rfl
  refine (play_bind (log_play listing.startRecord)).trans ((play_bind h).trans
    ((play_bind hsteps).trans ((play_bind hclose).trans ?_)))
  cases result with
  | error fault => rfl
  | ok state =>
      show ((outcome state, browser''),
        history'' ++ [.closed handle] ++ [.logged (listing.endRecord state)]) = _
      rw [List.append_assoc]
      rfl

/-- **A listing prints the servers of all packets that it decodes,** each once and in their order,
wherever it ends. -/
theorem run_prints (listing : Listing) {host : String} {port : Int}
    (hmaster : listing.master = .pair host port) (scenario : Scenario) (limit : Nat)
    (browser : Browser) (history : History) :
    ∃ result pages since,
      listing.run scenario.console.world (printer scenario.console) limit browser history =
        ((result, browser), history ++ since) ∧
      (result ≠ .error .exhausted → listing.Printed history.socketCount since pages result) := by
  obtain ⟨opened, more, hconnect, hopens⟩ := DatagramSocket.connect_opens scenario listing.master
    listing.settings.timeout browser (history ++ [.logged listing.startRecord])
  have hcount : History.socketCount (history ++ [.logged listing.startRecord]) =
      history.socketCount := by
    simp [History.socketCount]
  have hsplit : listing.master.split = .ok (host, port) := by
    rw [hmaster]
    rfl
  have hfirst : History.Prepares history.socketCount (.logged listing.startRecord :: more) :=
    List.forall_mem_cons.2 ⟨rfl, hcount ▸ hopens.prepares⟩
  have hopened : History.socketCount (.logged listing.startRecord :: more) = 1 := by
    rw [← hopens.socketCount hsplit]
    rfl
  cases opened with
  | error fault =>
      refine ⟨.error fault, [], .logged listing.startRecord :: more ++ [] ++ [], ?_, fun _ =>
        prints_nil.enclosed hfirst hopened (by simp [History.Prepares]) rfl ⟨rfl, ?_⟩⟩
      · refine (run_of_connect_error hconnect).trans ?_
        simp
      · rintro ⟨page, hpage, -⟩
        cases hpage
  | ok socket =>
      have hhandle : socket.handle = some history.socketCount := by
        rw [← hcount]
        exact hopens.handle
      have hinitial : Gathers history.socketCount [] [] listing.initial :=
        ⟨rfl, rfl, fun page hpage => absurd hpage List.not_mem_nil⟩
      obtain ⟨result, pages, since, hsteps, hprints, hends⟩ := prints_nil.steps hinitial hhandle
        scenario limit browser (history ++ [.logged listing.startRecord] ++ more)
      rw [List.append_nil, List.nil_append] at hsteps
      rw [List.nil_append] at hprints hends
      have hrun := run_of_connect_ok hconnect hhandle hsteps
      refine ⟨result.bind outcome, pages, .logged listing.startRecord :: more ++ since ++
        listing.closing history.socketCount result, ?_, fun hleft =>
        hprints.enclosed hfirst hopened ?_ ?_ ?_⟩
      · refine hrun.trans ?_
        simp
      · cases result <;> simp [closing, History.Prepares, Event.prepares]
      · exact (silent_closing listing _ result).socketCount
      · cases result with
        | error fault =>
            have hwaits := hends fun hused => hleft (hused ▸ rfl)
            exact ⟨hwaits.1, hwaits.not_isComplete⟩
        | ok final =>
            have hover := hends fun hused => by cases hused
            exact hover.2.ends hover.1

end Listing

namespace Browser

/-! ## batch after batch -/

/-- What the listings of batches have asked for and printed, one after the other, over sockets that
are numbered from `first` on. -/
structure Printed (client : Client) (batches : List (List String)) (first : Nat) (since : History)
    (pages : List (List ServerAddress)) : Prop where
  collected : History.Collected first since pages
  arrived : pages = since.arrivals.map Page.servers
  asked : ∀ socket packet, .sent socket packet ∈ since → ∃ k batch, socket = first + k ∧
    batches[k]? = some batch ∧ Listing.Writes ⟨client.master, batch, client.settings⟩ packet
  output : since.output = pageText pages.flatten
  unreported : ∀ text, .reported text ∉ since

/-- How the listings of batches have ended: all of them are complete and their servers are added up,
or the last one that was begun is the only one that is not complete. -/
def Totals (batches : List (List String)) (first : Nat) (since : History) (sum : Int) :
    Except Fault Int → Prop :=
  Ends (fun total => total = sum ∧ since.socketCount = batches.length ∧
      ∀ k < batches.length, since.IsComplete (first + k))
    (fun _ => ∃ k < batches.length, since.socketCount = k + 1 ∧
      (∀ i < k, since.IsComplete (first + i)) ∧ ¬ since.IsComplete (first + k))

section Batches

variable {client : Client} {batch : List String} {batches rest : List (List String)}
  {first : Nat} {announced : History} {pages' : List (List ServerAddress)}
  {listed : Except Fault Listing.State} {sum : Int} {result : Except Fault Int}

/-- Before any batch is listed nothing has happened. -/
theorem printed_nil (client : Client) (batches : List (List String)) (first : Nat) :
    Printed client batches first [] [] where
  collected := History.collected_nil first
  arrived := rfl
  asked := by simp
  output := rfl
  unreported := by simp

/-- **The first listing prints its servers before the others do.** -/
theorem Printed.cons (hannounced : announced.Said)
    (hmore : Listing.Printed ⟨client.master, batch, client.settings⟩ first more pages listed)
    (h : Printed client rest (first + 1) since pages') :
    Printed client (batch :: rest) first (announced ++ more ++ since) (pages ++ pages') where
  collected := h.collected.cons hannounced hmore.toGathered
  arrived := by
    rw [History.arrivals_append, History.arrivals_append, hannounced.arrivals, List.nil_append,
      List.map_append, ← h.arrived, History.arrivals_of_alone hmore.alone, ← hmore.delivered]
  asked socket packet hsent := by
    obtain hsent | hsent := List.mem_append.1 hsent
    · obtain hsent | hsent := List.mem_append.1 hsent
      · obtain ⟨record, hrecord⟩ := hannounced _ hsent
        cases hrecord
      · exact ⟨0, batch, hmore.alone _ hsent socket rfl, rfl, hmore.asked socket packet hsent⟩
    · obtain ⟨k, other, rfl, hother, hwrites⟩ := h.asked socket packet hsent
      exact ⟨k + 1, other, by omega, hother, hwrites⟩
  output := by
    rw [History.output_append, History.output_append, hannounced.output, hmore.output, h.output,
      String.empty_append, List.flatten_append, pageText_append]
  unreported text hreported := by
    obtain hreported | hreported := List.mem_append.1 hreported
    · obtain hreported | hreported := List.mem_append.1 hreported
      · obtain ⟨record, hrecord⟩ := hannounced _ hreported
        cases hrecord
      · exact hmore.unreported text hreported
    · exact h.unreported text hreported

/-- What is said after the listings is neither asked nor printed. -/
theorem Printed.said (h : Printed client batches first since pages) (hsaid : announced.Said) :
    Printed client batches first (since ++ announced) pages where
  collected := h.collected.said hsaid
  arrived := by
    rw [History.arrivals_append, hsaid.arrivals, List.append_nil]
    exact h.arrived
  asked socket packet hsent := by
    obtain hsent | hsent := List.mem_append.1 hsent
    · exact h.asked socket packet hsent
    · obtain ⟨record, hrecord⟩ := hsaid _ hsent
      cases hrecord
  output := by
    rw [History.output_append, hsaid.output, String.append_empty]
    exact h.output
  unreported text hreported := by
    obtain hreported | hreported := List.mem_append.1 hreported
    · exact h.unreported text hreported
    · obtain ⟨record, hrecord⟩ := hsaid _ hreported
      cases hrecord

/-- A listing that fails leaves its batch incomplete. -/
theorem totals_of_error {fault : Fault} (sum : Int) (rest : List (List String))
    (hannounced : announced.Said)
    (hmore : Listing.Gathered history.socketCount more pages (.error fault)) :
    Totals (batch :: rest) history.socketCount (announced ++ more) sum (.error fault) := by
  have hopened := History.socketCount_cons [] hannounced hmore
  have hcomplete : (announced ++ more ++ []).IsComplete history.socketCount ↔
      more.IsComplete history.socketCount :=
    isComplete_first hannounced (History.collected_nil _)
  rw [List.append_nil] at hopened hcomplete
  refine ⟨0, Nat.succ_pos _, hopened, by simp, ?_⟩
  rw [Nat.add_zero, hcomplete]
  exact hmore.ends

/-- A listing that succeeds leaves it to the others how all of them end. -/
theorem Totals.cons {state : Listing.State} (hannounced : announced.Said)
    (hmore : Listing.Gathered history.socketCount more pages (.ok state))
    (hcollected : History.Collected (history.socketCount + 1) since pages')
    (h : Totals rest (history ++ announced ++ more).socketCount since sum result) :
    Totals (batch :: rest) history.socketCount (announced ++ more ++ since) sum result := by
  have hfirst := (isComplete_first hannounced hcollected).2 hmore.ends.2
  have hlater := isComplete_later since hannounced hmore
  have hopened := History.socketCount_cons since hannounced hmore
  have hbefore (k : Nat)
      (hrest : ∀ i < k, since.IsComplete ((history ++ announced ++ more).socketCount + i)) :
      ∀ i < k + 1, (announced ++ more ++ since).IsComplete (history.socketCount + i) := by
    intro i hi
    cases i with
    | zero => exact hfirst
    | succ i => exact (hlater i).2 (hrest i (Nat.lt_of_succ_lt_succ hi))
  cases result with
  | ok total =>
      obtain ⟨hsum, hcount, hall⟩ := h
      exact ⟨hsum, by rw [hopened, hcount, List.length_cons], hbefore _ hall⟩
  | error fault =>
      obtain ⟨k, hk, hcount, hall, hincomplete⟩ := h
      exact ⟨k + 1, Nat.succ_lt_succ hk, by rw [hopened, hcount], hbefore k hall,
        fun hcomplete => hincomplete ((hlater k).1 hcomplete)⟩

theorem Totals.said (h : Totals batches first since sum result) (hsaid : announced.Said) :
    Totals batches first (since ++ announced) sum result := by
  have hdecoded (socket : Nat) : (since ++ announced).decoded socket = since.decoded socket := by
    rw [History.decoded_append, hsaid.silent.decoded, List.append_nil]
  have hcount : (since ++ announced).socketCount = since.socketCount := by
    rw [History.socketCount_append, hsaid.silent.socketCount, Nat.add_zero]
  simpa only [Totals, History.IsComplete, hdecoded, hcount] using h

end Batches

/-- **A row of listings prints the servers of one after those of the other,** and counts them. -/
theorem listBatches_prints {client : Client} {host : String} {port : Int}
    (hmaster : client.master = .pair host port) (scenario : Scenario) (limit : Nat)
    (batches : List (List String)) (number : Nat) (total : Int) (browser : Browser)
    (history : History) :
    ∃ result pages since,
      listBatches client scenario.console.world (printer scenario.console) limit number total
          batches browser history = ((result, browser), history ++ since) ∧
      (result ≠ .error .exhausted →
        Printed client batches history.socketCount since pages ∧
        Totals batches history.socketCount since (total + pages.flatten.length) result) := by
  induction batches generalizing number total history with
  | nil =>
      refine ⟨.ok total, [], [], ?_, fun _ => ⟨printed_nil client [] _, by simp, rfl, by simp⟩⟩
      rw [List.append_nil]
      rfl
  | cons batch rest ih =>
      obtain ⟨announced, hstarted, hannounced⟩ : ∃ announced : History,
          batchStarted client number batch history = history ++ announced ∧ announced.Said :=
        ⟨_, rfl, History.said_logged _⟩
      have hfirst : (history ++ announced).socketCount = history.socketCount := by
        rw [History.socketCount_append, hannounced.silent.socketCount, Nat.add_zero]
      let listing : Listing := ⟨client.master, batch, client.settings⟩
      obtain ⟨listed, pages, more, hrun, hmore⟩ :=
        listing.run_prints hmaster scenario limit browser (history ++ announced)
      rw [hfirst] at hmore
      rw [← hstarted] at hrun
      cases listed with
      | error fault =>
          refine ⟨.error fault, pages, announced ++ more, ?_, fun hleft => ?_⟩
          · rw [← List.append_assoc, ← hstarted]
            exact listBatches_of_error hrun
          · have hprinted := hmore fun hused => hleft (by cases hused; rfl)
            have hnone := printed_nil client rest (history.socketCount + 1)
            have hall := hnone.cons hannounced hprinted
            rw [List.append_nil, List.append_nil] at hall
            exact ⟨hall, totals_of_error _ rest hannounced hprinted.toGathered⟩
      | ok state =>
          have hprinted := hmore fun hused => by cases hused
          have hnext : (history ++ announced ++ more).socketCount = history.socketCount + 1 := by
            rw [History.socketCount_append, hfirst, hprinted.socketCount]
          obtain ⟨result, pages', since, hplay, hrest⟩ := ih (number + 1)
            (total + state.serversDelivered) (history ++ announced ++ more)
          have hsum : total + state.serversDelivered + pages'.flatten.length =
              total + (pages ++ pages').flatten.length := by
            rw [hprinted.ends.1, List.flatten_append, List.length_append]
            omega
          refine ⟨result, pages ++ pages', announced ++ more ++ since, ?_, fun hleft => ?_⟩
          · refine (listBatches_of_ok hrun).trans ?_
            rw [hstarted]
            refine hplay.trans ?_
            simp only [List.append_assoc]
          · obtain ⟨hlater, htotals⟩ := hrest hleft
            rw [hsum] at htotals
            rw [hnext] at hlater
            exact ⟨hlater.cons hannounced hprinted,
              htotals.cons hannounced hprinted.toGathered hlater.collected⟩

/-- **A query prints the servers of all packets that it decodes,** and its total is their number. -/
theorem query_prints (client : Client) {host : String} {port : Int}
    (hmaster : client.master = .pair host port) (scenario : Scenario) (limit : Nat)
    (browser : Browser) (history : History) :
    ∃ result pages since,
      (query client scenario.console.world (printer scenario.console) limit : Play _) browser
          history = ((result, { browser with querying := false }), history ++ since) ∧
      (result ≠ .error .exhausted →
        Printed client (Filter.batches client.settings.filterBudget browser.filters)
          history.socketCount since pages ∧
        Totals (Filter.batches client.settings.filterBudget browser.filters) history.socketCount
          since pages.flatten.length result) := by
  obtain ⟨result, pages, since, hplay, hprinted⟩ := listBatches_prints hmaster scenario limit
    (Filter.batches client.settings.filterBudget browser.filters) 1 0
    { browser with querying := true } history
  have hquery := (query_play hplay).trans
    (congrArg (Prod.mk _) (List.append_assoc history since (ending result)))
  have hsaid := said_ending result
  rw [Int.zero_add] at hprinted
  refine ⟨result, pages, since ++ ending result, hquery, fun hleft => ?_⟩
  obtain ⟨hlistings, htotals⟩ := hprinted hleft
  exact ⟨hlistings.said hsaid, htotals.said hsaid⟩

end Browser

end ServerBrowser
