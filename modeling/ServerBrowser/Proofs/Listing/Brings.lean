import ServerBrowser.Proofs.Browser.Conversations
import ServerBrowser.Proofs.Listing.Gathering

/-!
# ServerBrowser.Proofs.Listing.Brings

What a listing says and hears over a transport of which little is known: that it sends on the one
socket only what it is given, hears there what it gives, and does nothing else but talk to the log.
`Brings` says so of an action, together with the pages of the packets that it brings; the rules
follow the shape of an action.  A step of a listing that delivers no page goes on with the page that
it brings (`brings_step`), whichever of these transports it runs over.
-/

namespace ServerBrowser

open Scenario

namespace Listing

/-- Events of a listing over a socket, which sends its queries and nothing else. -/
def Says (listing : Listing) (handle : Nat) (more : History) : Prop :=
  History.Own handle more ∧ ∀ packet, .sent handle packet ∈ more → listing.Writes packet

/-- Whether an action leaves the browser as it is, and only adds what a listing may say and hear,
such that `post` is true of its result and of the pages of the packets that are received. -/
def Brings {α : Type} (listing : Listing) (handle : Nat) (action : Play α)
    (post : α → List Page → Prop) : Prop :=
  ∀ browser history, ∃ a more, action browser history = ((a, browser), history ++ more) ∧
    listing.Says handle more ∧ post a (more.decoded handle)

variable {α β S : Type} {listing : Listing} {handle : Nat} {first more : History}

theorem Says.append (hfirst : listing.Says handle first) (hmore : listing.Says handle more) :
    listing.Says handle (first ++ more) :=
  ⟨hfirst.1.append hmore.1, fun packet hsent =>
    (List.mem_append.1 hsent).elim (hfirst.2 packet) (hmore.2 packet)⟩

/-- Events among which nothing is sent. -/
theorem Says.of_own (hown : History.Own handle more)
    (hsent : ∀ packet, .sent handle packet ∉ more) : listing.Says handle more :=
  ⟨hown, fun packet h => absurd h (hsent packet)⟩

/-! ## rules -/

namespace Brings

variable {action : Play α} {post post' : α → List Page → Prop} {last : β → List Page → Prop}

theorem imp (h : listing.Brings handle action post)
    (himp : ∀ a pages, post a pages → post' a pages) : listing.Brings handle action post' := by
  intro browser history
  obtain ⟨a, more, hplay, hsays, hpost⟩ := h browser history
  exact ⟨a, more, hplay, hsays, himp _ _ hpost⟩

theorem pure {a : α} (h : post a []) : listing.Brings handle (Pure.pure a) post := by
  intro browser history
  refine ⟨a, [], ?_, .of_own History.own_nil (by simp), h⟩
  rw [List.append_nil]
  rfl

/-- What comes after an action brings its pages after those of the action. -/
theorem bind {next : α → Play β} (h : listing.Brings handle action post)
    (hnext : ∀ a pages, post a pages →
      listing.Brings handle (next a) fun b others => last b (pages ++ others)) :
    listing.Brings handle (action >>= next) last := by
  intro browser history
  obtain ⟨a, first, hplay, hfirst, hpost⟩ := h browser history
  obtain ⟨b, more, hrest, hmore, hlast⟩ := hnext a _ hpost browser (history ++ first)
  refine ⟨b, first ++ more, ?_, hfirst.append hmore, ?_⟩
  · rw [play_bind hplay, hrest, List.append_assoc]
  · rw [History.decoded_append]
    exact hlast

/-- An action that brings no page, before another one. -/
theorem silent_bind {action : Play α} {next : α → Play β}
    (h : listing.Brings handle action fun _ pages => pages = [])
    (hnext : ∀ a, listing.Brings handle (next a) last) :
    listing.Brings handle (action >>= next) last :=
  h.bind fun a pages hpages => (hnext a).imp fun b others hlast => by rwa [hpages]

/-- A fault ends a row of actions. -/
theorem bind_run {action : ExceptT Fault Play α} {next : α → ExceptT Fault Play β}
    {post : Except Fault α → List Page → Prop} {last : Except Fault β → List Page → Prop}
    (h : listing.Brings handle action.run post)
    (hok : ∀ a pages, post (.ok a) pages →
      listing.Brings handle (next a).run fun b others => last b (pages ++ others))
    (herror : ∀ fault pages, post (.error fault) pages → last (.error fault) pages) :
    listing.Brings handle (action >>= next).run last := by
  rw [ExceptT.run_bind]
  refine h.bind fun result pages hpost => ?_
  cases result with
  | ok a => exact hok a pages hpost
  | error fault => exact pure (by rw [List.append_nil]; exact herror fault pages hpost)

/-- A fault that is a result of its own ends nothing. -/
theorem lift_bind {next : α → ExceptT Fault Play β} {last : Except Fault β → List Page → Prop}
    (h : listing.Brings handle action post)
    (hnext : ∀ a pages, post a pages →
      listing.Brings handle (next a).run fun b others => last b (pages ++ others)) :
    listing.Brings handle ((ExceptT.lift action : ExceptT Fault Play α) >>= next).run last := by
  have hrun : ((ExceptT.lift action : ExceptT Fault Play α) >>= next).run =
      action >>= fun a => (next a).run := by
    rw [ExceptT.run_bind, ExceptT.run_lift, map_eq_pure_bind, bind_assoc]
    rfl
  rw [hrun]
  exact h.bind hnext

/-- The same, where nothing is brought before. -/
theorem silent_lift_bind {next : α → ExceptT Fault Play β}
    {last : Except Fault β → List Page → Prop}
    (h : listing.Brings handle action fun _ pages => pages = [])
    (hnext : ∀ a, listing.Brings handle (next a).run last) :
    listing.Brings handle ((ExceptT.lift action : ExceptT Fault Play α) >>= next).run last :=
  h.lift_bind fun a pages hpages => (hnext a).imp fun b others hlast => by rwa [hpages]

/-- Words of the log bring nothing. -/
theorem forM {say : Log.Record → Play Unit}
    (h : ∀ record, listing.Brings handle (say record) fun _ pages => pages = [])
    (records : List Log.Record) :
    listing.Brings handle (records.forM say) fun _ pages => pages = [] := by
  induction records with
  | nil => exact pure rfl
  | cons record records ih => exact (h record).silent_bind fun _ => ih

end Brings

/-! ## listings -/

/-- The page of what was received, if there is one. -/
def pages? (result : Except Fault (List UInt8)) : List Page :=
  (result.toOption.bind fun packet => (Response.parse packet).toOption).toList

/-- Whether a world that cannot cancel a listing speaks for it on a socket: it sends what it is
given, gives what it receives, and has nothing to say besides but words of the log. -/
structure Speaks (listing : Listing) (world : Surroundings Play S) (socket : S) (handle : Nat) :
    Prop where
  uncancelled : world.cancel = none
  send : ∀ packet, listing.Writes packet →
    listing.Brings handle (world.transport.send socket packet) fun _ pages => pages = []
  receive : listing.Brings handle (world.transport.receive socket) fun result pages =>
    pages = pages? result
  sleep : ∀ seconds, listing.Brings handle (world.sleep seconds) fun _ pages => pages = []
  log : ∀ record, listing.Brings handle (world.log record) fun _ pages => pages = []

variable {world : Surroundings Play S} {socket : S} {state : State}

theorem Speaks.brings_ask (h : listing.Speaks world socket handle) (cursor : ServerAddress) :
    listing.Brings handle (listing.ask world socket cursor).run fun _ pages => pages = [] := by
  cases hpacket : (listing.query cursor).toBytes with
  | error fault =>
      have hask : (listing.ask world socket cursor).run = pure (.error fault) := by
        simp [ask, hpacket, ExceptT.run_bind]
      rw [hask]
      exact .pure rfl
  | ok packet =>
      have hask : (listing.ask world socket cursor).run = world.transport.send socket packet := by
        simp [ask, hpacket, ExceptT.run_bind]
      rw [hask]
      exact h.send packet ⟨cursor, hpacket⟩

theorem Speaks.brings_exchange (h : listing.Speaks world socket handle) (state : State) :
    listing.Brings handle (listing.exchange world socket state).run fun result pages =>
      pages = pages? result := by
  refine (h.brings_ask state.cursor).bind_run (fun _ pages hpages => ?_) fun fault pages hpages => ?_
  · rw [hpages]
    exact h.receive
  · exact hpages

/-- Decoding is a matter of the log. -/
theorem Speaks.brings_decode (h : listing.Speaks world socket handle) (state : State)
    (packet : List UInt8) :
    listing.Brings handle (decode world state packet).run fun result pages =>
      pages = [] ∧ result = (Response.parse packet).map state.withPage := by
  rw [decode, forM_lift]
  refine (Brings.forM h.log _).silent_lift_bind fun _ => ?_
  cases hparse : Response.parse packet with
  | error fault => exact .pure ⟨rfl, rfl⟩
  | ok page => exact (h.log (pageRecord state page)).silent_lift_bind fun _ => .pure ⟨rfl, rfl⟩

theorem Speaks.checkCancelled_eq (h : listing.Speaks world socket handle) :
    checkCancelled world = pure () := by
  rw [checkCancelled, h.uncancelled]

/-- **A transition that delivers no page** goes on with the page that it brings. -/
theorem Speaks.brings_transition (h : listing.Speaks world socket handle)
    (listener : Listener Play) (hfinished : state.isFinished = false)
    (hphase : state.phase ≠ .delivering) :
    listing.Brings handle (listing.transition world listener socket state).run
      fun result pages => Advances state pages (state.settle result) := by
  rw [transition]
  cases phase : state.phase with
  | start =>
      simp only
      rw [begin, h.checkCancelled_eq, pure_bind]
      refine (h.brings_ask .null).bind_run (fun _ pages hpages => ?_) fun fault pages hpages => ?_
      · rw [hpages]
        exact .pure (.waiting (.inl rfl) rfl)
      · rw [hpages]
        exact .ended fault
  | awaiting =>
      simp only
      rw [await]
      refine Brings.bind_run h.receive (fun packet pages hpages => ?_) fun fault pages hpages => ?_
      · rw [hpages]
        refine (h.brings_decode state packet).imp ?_
        rintro _ others ⟨rfl, rfl⟩
        rw [List.append_nil]
        exact .received packet
      · rw [hpages]
        exact .ended fault
  | delivering => exact absurd phase hphase
  | continuing =>
      simp only
      rw [proceed, pause, h.uncancelled, h.checkCancelled_eq, pure_bind]
      refine Brings.bind_run (h.sleep _) (fun _ slept hslept => ?_) fun fault slept hslept => ?_
      · rw [hslept]
        refine (h.brings_exchange state).lift_bind fun result pages hpages => ?_
        rw [hpages]
        cases result with
        | ok packet =>
            refine (h.brings_decode state packet).imp ?_
            rintro _ others ⟨rfl, rfl⟩
            rw [List.append_nil]
            exact .received packet
        | error fault =>
            simp only
            split
            · exact (h.log (retryRecord state fault)).silent_lift_bind fun _ =>
                .pure (.waiting (.inr phase) rfl)
            · exact .pure (.ended fault)
      · rw [hslept]
        exact .ended fault
  | done | failed => simp [State.isFinished, phase] at hfinished

theorem Speaks.brings_step (h : listing.Speaks world socket handle)
    (listener : Listener Play) (hfinished : state.isFinished = false)
    (hphase : state.phase ≠ .delivering) :
    listing.Brings handle (listing.step world listener socket state)
      fun result pages => Advances state pages result := by
  intro browser history
  obtain ⟨result, more, hplay, hsays, hadvances⟩ :=
    h.brings_transition listener hfinished hphase browser history
  exact ⟨_, more, step_play result hplay, hsays, hadvances⟩

end Listing

end ServerBrowser
