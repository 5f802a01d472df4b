import ServerBrowser.Proofs.Listing.Family

/-!
# ServerBrowser.Proofs.Listing.Turn

How a step changes the state of a listing, in any world.  A step that delivers a page ends as its
listener has it (`step_deliver`).  Every other step is a turn: `Turn` has a case for each way in
which the state may change, and `turn_step` says that there is no other one.  What is to be said of
all states of a listing is then a case analysis over turns, whatever its world does.
-/

namespace ServerBrowser

open Scenario

variable {S : Type}

/-- Whether a transport can answer an operation on a socket with a fault. -/
inductive Transport.Raises (transport : Transport Play S) (socket : S) (fault : Fault) : Prop
  | send (packet : List UInt8) (browser : Browser) (history : History)
    (answer : (transport.send socket packet browser history).1.1 = .error fault)
  | receive (browser : Browser) (history : History)
    (answer : (transport.receive socket browser history).1.1 = .error fault)

namespace Listing

/-- The ways in which a step may end that delivers no page. -/
inductive Turn (listing : Listing) (world : Surroundings Play S) (socket : S) (state : State) :
    Except Fault State → Prop
  | begun (phase : state.phase = .start) :
    Turn listing world socket state (.ok { state with phase := .awaiting, cursor := .null })
  | decoded {packet : List UInt8} {page : Page}
    (phase : state.phase = .awaiting ∨ state.phase = .continuing)
    (parsed : Response.parse packet = .ok page) :
    Turn listing world socket state (.ok (state.withPage page))
  | retried {fault : Fault} (phase : state.phase = .continuing)
    (lost : fault.isTransport = true) (left : 0 < state.retriesLeft) :
    Turn listing world socket state
      (.ok { state with retriesLeft := state.retriesLeft - 1, lastFault := some fault })
  | ended {fault : Fault} (unfinished : state.isFinished = false)
    (family : fault.inFamily = true) :
    Turn listing world socket state (.ok (state.endedBy fault))
  /-- The server to go on after cannot be named in a query. -/
  | unwritten {fault : Fault} (phase : state.phase = .continuing)
    (query : (listing.query state.cursor).toBytes = .error fault)
    (family : fault.inFamily = false) : Turn listing world socket state (.error fault)
  | raised {fault : Fault} (raises : world.transport.Raises socket fault)
    (family : fault.inFamily = false) : Turn listing world socket state (.error fault)
  /-- The delay before the next query is refused. -/
  | refused {fault : Fault} (phase : state.phase = .continuing)
    (refuses : world.Refuses listing.settings.retryDelay fault)
    (family : fault.inFamily = false) : Turn listing world socket state (.error fault)
  | rested (finished : state.isFinished = true) : Turn listing world socket state (.ok state)

variable {listing : Listing} {world : Surroundings Play S} {listener : Listener Play} {socket : S}
  {state : State} {cursor : ServerAddress}

/-! ## the faults of a step -/

/-- The faults that may end a step: those of the family, those of a delay that is refused or a query
that cannot be written, and those of the transport. -/
def MayEnd (listing : Listing) (world : Surroundings Play S) (socket : S) (state : State)
    (fault : Fault) : Prop :=
  fault.inFamily = true ∨
    (state.phase = .continuing ∧ (world.Refuses listing.settings.retryDelay fault ∨
      (listing.query state.cursor).toBytes = .error fault)) ∨
    world.transport.Raises socket fault

/-- A fault ends the listing or leaves the step. -/
theorem MayEnd.turn {fault : Fault} (h : listing.MayEnd world socket state fault)
    (hfinished : state.isFinished = false) :
    listing.Turn world socket state (state.afterFault fault) := by
  cases hfamily : fault.inFamily with
  | true =>
      rw [State.afterFault, if_pos hfamily]
      exact .ended hfinished hfamily
  | false =>
      rw [State.afterFault, if_neg (by simp [hfamily])]
      obtain hin | ⟨phase, hrefuses | hquery⟩ | hraises := h
      · simp [hfamily] at hin
      · exact .refused phase hrefuses hfamily
      · exact .unwritten phase hquery hfamily
      · exact .raised hraises hfamily

/-! ## the parts of a step -/

theorem yields_receive_raises (transport : Transport Play S) (socket : S) :
    Yields (transport.receive socket)
      (Scenario.Ends (fun _ => True) (transport.Raises socket)) := by
  intro browser history
  cases hanswer : (transport.receive socket browser history).1.1 with
  | ok packet => trivial
  | error fault => exact .receive browser history hanswer

theorem yields_send_raises (transport : Transport Play S) (socket : S) (packet : List UInt8) :
    Yields (transport.send socket packet)
      (Scenario.Ends (fun _ => True) (transport.Raises socket)) := by
  intro browser history
  cases hanswer : (transport.send socket packet browser history).1.1 with
  | ok => trivial
  | error fault => exact .send packet browser history hanswer

/-- Asking fails where the query cannot be written, or in the transport. -/
theorem yields_ask_raises (listing : Listing) (world : Surroundings Play S) (socket : S)
    (cursor : ServerAddress) :
    Yields (listing.ask world socket cursor).run (Scenario.Ends (fun _ => True) fun fault =>
      (listing.query cursor).toBytes = .error fault ∨ world.transport.Raises socket fault) := by
  unfold ask
  cases hquery : (listing.query cursor).toBytes with
  | error fault => exact .bind_error (.pure rfl) (.inl rfl)
  | ok packet =>
      refine .bind_ok (.pure rfl) ((yields_send_raises world.transport socket packet).mono ?_)
      rintro (fault | _) hends
      · exact .inr hends
      · trivial

/-- A decoded packet leads to the state with its page. -/
theorem yields_decode_page (world : Surroundings Play S) (state : State) (packet : List UInt8) :
    Yields (decode world state packet).run
      (EndsInFamily fun next => ∃ page, Response.parse packet = .ok page ∧
        next = state.withPage page) := by
  unfold decode
  refine .bind_ok (.forM _) ?_
  cases hpage : Response.parse packet with
  | error fault => exact .bind_error (.pure rfl) (Response.inFamily_of_parse hpage)
  | ok page =>
      refine .bind_ok (.pure rfl) (.bind_ok Yields.lift_unit ?_)
      exact .pure ⟨page, rfl, rfl⟩

theorem yields_exchange_raises (listing : Listing) (world : Surroundings Play S) (socket : S)
    (state : State) :
    Yields (listing.exchange world socket state).run
      (Scenario.Ends (fun _ => True) fun fault =>
        (listing.query state.cursor).toBytes = .error fault ∨
          world.transport.Raises socket fault) := by
  unfold exchange
  refine .bind_run (yields_ask_raises listing world socket state.cursor) (fun _ _ => ?_)
    fun _ => id
  refine (yields_receive_raises world.transport socket).mono ?_
  rintro (fault | _) hends
  · exact .inr hends
  · trivial

/-! ## turns -/

/-- What a transition comes to: a turn to the next state, or a fault that may end the step. -/
abbrev TurnsTo (listing : Listing) (world : Surroundings Play S) (socket : S) (state : State) :
    Except Fault State → Prop :=
  Scenario.Ends (fun next => listing.Turn world socket state (.ok next))
    (listing.MayEnd world socket state)

/-- Decoding a packet is a turn. -/
theorem yields_decode_turn (listing : Listing) (world : Surroundings Play S) (socket : S)
    (packet : List UInt8) (phase : state.phase = .awaiting ∨ state.phase = .continuing) :
    Yields (decode world state packet).run (listing.TurnsTo world socket state) := by
  refine (yields_decode_page world state packet).mono ?_
  rintro (fault | next) hends
  · exact .inl hends
  · obtain ⟨page, hparse, rfl⟩ := hends
    exact .decoded phase hparse

theorem yields_begin_turn (listing : Listing) (world : Surroundings Play S) (socket : S)
    (phase : state.phase = .start) :
    Yields (listing.begin world socket state).run (listing.TurnsTo world socket state) := by
  obtain ⟨packet, hpacket⟩ : ∃ packet, (listing.query .null).toBytes = .ok packet :=
    Query.toBytes_of_ascii ServerAddress.isCursor_null
  unfold begin
  refine .bind_run (yields_checkCancelled world) (fun _ _ => ?_) fun _ => .inl
  refine .bind_run (yields_ask_raises listing world socket .null) (fun _ _ => .pure (.begun phase))
    ?_
  rintro fault (hquery | hraises)
  · cases hpacket.symm.trans hquery
  · exact .inr (.inr hraises)

theorem yields_proceed_turn (listing : Listing) (world : Surroundings Play S) (socket : S)
    (phase : state.phase = .continuing) :
    Yields (listing.proceed world socket state).run (listing.TurnsTo world socket state) := by
  unfold proceed
  refine .bind_run (yields_pause listing world) (fun _ _ => ?_) fun _ hpause =>
    hpause.imp_right fun hrefuses => .inl ⟨phase, .inl hrefuses⟩
  refine .bind_run (yields_checkCancelled world) (fun _ _ => ?_) fun _ => .inl
  refine (yields_exchange_raises listing world socket state).lift_never.bind_run
    (fun result hresult => ?_) fun _ => False.elim
  cases result with
  | ok packet => exact yields_decode_turn listing world socket packet (.inr phase)
  | error fault =>
      by_cases hretry : fault.isTransport = true ∧ 0 < state.retriesLeft
      · simp only [if_pos hretry]
        exact .bind_ok Yields.lift_unit (.pure (.retried phase hretry.1 hretry.2))
      · simp only [if_neg hretry]
        obtain hquery | hraises := hresult
        · exact .pure (.inr (.inl ⟨phase, .inr hquery⟩))
        · exact .pure (.inr (.inr hraises))

theorem yields_transition_turn (listing : Listing) (world : Surroundings Play S)
    (listener : Listener Play) (socket : S) (hdelivering : state.phase ≠ .delivering) :
    Yields (listing.transition world listener socket state).run
      (listing.TurnsTo world socket state) := by
  unfold transition
  cases phase : state.phase with
  | start => exact yields_begin_turn listing world socket phase
  | awaiting =>
      refine .bind_run (yields_receive_raises world.transport socket) (fun packet _ => ?_)
        fun _ => .inr ∘ .inr
      exact yields_decode_turn listing world socket packet (.inl phase)
  | delivering => exact absurd phase hdelivering
  | continuing => exact yields_proceed_turn listing world socket phase
  | done | failed => exact .pure (.rested (by simp [State.isFinished, phase]))

/-- **Every step that delivers no page is a turn.** -/
theorem turn_step (listing : Listing) (world : Surroundings Play S) (listener : Listener Play)
    (socket : S) (hdelivering : state.phase ≠ .delivering) :
    Yields (listing.step world listener socket state)
      (listing.Turn world socket state) := by
  cases hfinished : state.isFinished with
  | true =>
      intro browser history
      rw [step_of_finished hfinished]
      exact .rested hfinished
  | false =>
      unfold step
      refine (yields_transition_turn listing world listener socket hdelivering).bind ?_
      intro result hresult
      cases result with
      | ok next => exact .pure hresult
      | error fault => exact .pure (MayEnd.turn hresult hfinished)

end Listing

end ServerBrowser
