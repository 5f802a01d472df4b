import ServerBrowser.Browser

/-!
# ServerBrowser.Proofs.Correspondence

The same query in two monads.  A correspondence relates actions of one monad to actions of another:
those that do nothing, and actions in a row of which each is related to its counterpart.  A query
reaches its world and its listener by the operations that it is given, and so it is related to the
query in the other monad if these operations are: `Correspondence.rel_step` says so of one step,
`Correspondence.rel_run` of one listing and `Correspondence.rel_query` of a whole query.

Of the packets that may be sent only the queries of the listing at hand need to be related, and of
the pages that may be handed on only those of steps that deliver one.  The sockets of the two worlds
need not be the same, nor of one type: it is enough to say which of them are paired
(`Surroundings.Matches`).
-/

namespace ServerBrowser

/-- A relation between actions of two monads that is kept by putting actions in a row. -/
structure Correspondence (m n : Type → Type) [Monad m] [Monad n] where
  Rel : {α : Type} → m α → n α → Prop
  pure : ∀ {α : Type} (a : α), Rel (Pure.pure a) (Pure.pure a)
  bind : ∀ {α β : Type} {first : m α} {second : n α} {next : α → m β} {next' : α → n β},
    Rel first second → (∀ a, Rel (next a) (next' a)) → Rel (first >>= next) (second >>= next')

variable {m n : Type → Type} [Monad m] [Monad n] {α β S T : Type} {C : Correspondence m n}

/-- Whether the operations are related that the steps of a listing use. -/
structure Surroundings.Corresponds (C : Correspondence m n) (listing : Listing)
    (first : Surroundings m S) (second : Surroundings n S) : Prop where
  send : ∀ socket cursor packet, (listing.query cursor).toBytes = .ok packet →
    C.Rel (first.transport.send socket packet) (second.transport.send socket packet)
  receive : ∀ socket, C.Rel (first.transport.receive socket) (second.transport.receive socket)
  close : ∀ socket, C.Rel (first.transport.close socket) (second.transport.close socket)
  sleep : C.Rel (first.sleep listing.settings.retryDelay)
    (second.sleep listing.settings.retryDelay)
  cancel : Option.Rel (fun signal signal' => C.Rel signal.isSet signal'.isSet ∧
    C.Rel (signal.wait listing.settings.retryDelay) (signal'.wait listing.settings.retryDelay))
    first.cancel second.cancel
  log : ∀ record, C.Rel (first.log record) (second.log record)

/-- Whether the operations are related that the steps of a listing use, over sockets that are
paired. -/
structure Surroundings.Matches (C : Correspondence m n) (listing : Listing) (paired : S → T → Prop)
    (first : Surroundings m S) (second : Surroundings n T) : Prop where
  send : ∀ {socket socket'}, paired socket socket' → ∀ cursor packet,
    (listing.query cursor).toBytes = .ok packet →
      C.Rel (first.transport.send socket packet) (second.transport.send socket' packet)
  receive : ∀ {socket socket'}, paired socket socket' →
    C.Rel (first.transport.receive socket) (second.transport.receive socket')
  close : ∀ {socket socket'}, paired socket socket' →
    C.Rel (first.transport.close socket) (second.transport.close socket')
  sleep : C.Rel (first.sleep listing.settings.retryDelay)
    (second.sleep listing.settings.retryDelay)
  cancel : Option.Rel (fun signal signal' => C.Rel signal.isSet signal'.isSet ∧
    C.Rel (signal.wait listing.settings.retryDelay) (signal'.wait listing.settings.retryDelay))
    first.cancel second.cancel
  log : ∀ record, C.Rel (first.log record) (second.log record)

/-- In worlds that correspond every socket is paired with itself. -/
theorem Surroundings.Corresponds.matches {listing : Listing} {first : Surroundings m S}
    {second : Surroundings n S} (h : first.Corresponds C listing second) :
    first.Matches C listing Eq second where
  send hsocket cursor packet hpacket := hsocket ▸ h.send _ cursor packet hpacket
  receive hsocket := hsocket ▸ h.receive _
  close hsocket := hsocket ▸ h.close _
  sleep := h.sleep
  cancel := h.cancel
  log := h.log

namespace Correspondence

/-- Whether two ways to get a socket are related: whatever comes after them is, if it is after the
same fault and after sockets that are paired. -/
def Connects (C : Correspondence m n) (paired : S → T → Prop) (first : m (Except Fault S))
    (second : n (Except Fault T)) : Prop :=
  ∀ {α : Type} (next : Except Fault S → m α) (next' : Except Fault T → n α),
    (∀ fault, C.Rel (next (.error fault)) (next' (.error fault))) →
    (∀ socket socket', paired socket socket' → C.Rel (next (.ok socket)) (next' (.ok socket'))) →
    C.Rel (first >>= next) (second >>= next')

theorem connects_of_rel {first : m (Except Fault S)} {second : n (Except Fault S)}
    (h : C.Rel first second) : C.Connects Eq first second := by
  intro α next next' hfault hsocket
  refine C.bind h fun result => ?_
  cases result with
  | error fault => exact hfault fault
  | ok socket => exact hsocket socket socket rfl

/-! ## actions in a row -/

theorem forM {first : α → m Unit} {second : α → n Unit} (h : ∀ a, C.Rel (first a) (second a))
    (as : List α) : C.Rel (as.forM first) (as.forM second) := by
  induction as with
  | nil => exact C.pure ()
  | cons a as ih => exact C.bind (h a) fun _ => ih

theorem pure_run (a : α) :
    C.Rel (Pure.pure a : ExceptT Fault m α).run (Pure.pure a : ExceptT Fault n α).run :=
  C.pure (Except.ok a)

/-- A fault ends a row, and what comes after it is not done. -/
theorem bind_run {first : ExceptT Fault m α} {second : ExceptT Fault n α}
    {next : α → ExceptT Fault m β} {next' : α → ExceptT Fault n β} (h : C.Rel first.run second.run)
    (hnext : ∀ a, C.Rel (next a).run (next' a).run) :
    C.Rel (first >>= next).run (second >>= next').run := by
  rw [ExceptT.run_bind, ExceptT.run_bind]
  refine C.bind h fun result => ?_
  cases result with
  | ok a => exact hnext a
  | error fault => exact C.pure _

theorem forM_run {first : α → ExceptT Fault m Unit} {second : α → ExceptT Fault n Unit}
    (h : ∀ a, C.Rel (first a).run (second a).run) (as : List α) :
    C.Rel (as.forM first).run (as.forM second).run := by
  induction as with
  | nil => exact pure_run ()
  | cons a as ih => exact bind_run (h a) fun _ => ih

/-- An action whose faults are results of their own. -/
theorem lift [LawfulMonad m] [LawfulMonad n] {first : m α} {second : n α}
    (h : C.Rel first second) :
    C.Rel (ExceptT.lift first : ExceptT Fault m α).run
      (ExceptT.lift second : ExceptT Fault n α).run := by
  show C.Rel (Except.ok <$> first) (Except.ok <$> second)
  rw [← bind_pure_comp, ← bind_pure_comp]
  exact C.bind h fun a => C.pure (Except.ok a)

/-! ## one step -/

variable {listing : Listing} {paired : S → T → Prop} {first : Surroundings m S}
  {second : Surroundings n T} {socket : S} {socket' : T} {listener : Listener m}
  {listener' : Listener n}

theorem rel_pause (hworld : first.Matches C listing paired second) :
    C.Rel (listing.pause first).run (listing.pause second).run := by
  have hcancel := hworld.cancel
  rw [Listing.pause, Listing.pause]
  generalize first.cancel = signal, second.cancel = signal' at hcancel ⊢
  cases hcancel with
  | none => exact hworld.sleep
  | some hsignal =>
      refine bind_run hsignal.2 fun set => ?_
      cases set with
      | true => exact C.pure _
      | false => exact pure_run ()

variable [LawfulMonad m] [LawfulMonad n]

theorem rel_ask (hworld : first.Matches C listing paired second) (hsocket : paired socket socket')
    (cursor : ServerAddress) :
    C.Rel (listing.ask first socket cursor).run (listing.ask second socket' cursor).run := by
  rw [Listing.ask, Listing.ask]
  cases hpacket : (listing.query cursor).toBytes with
  | error fault =>
      have hfails : C.Rel (Pure.pure (Except.error fault) : m (Except Fault Unit))
          (Pure.pure (Except.error fault)) := C.pure _
      simpa [ExceptT.run_bind] using hfails
  | ok packet =>
      have hsends := hworld.send hsocket cursor packet hpacket
      simpa [ExceptT.run_bind] using hsends

theorem rel_checkCancelled (hworld : first.Matches C listing paired second) :
    C.Rel (Listing.checkCancelled first).run (Listing.checkCancelled second).run := by
  have hcancel := hworld.cancel
  rw [Listing.checkCancelled, Listing.checkCancelled]
  generalize first.cancel = signal, second.cancel = signal' at hcancel ⊢
  cases hcancel with
  | none => exact pure_run ()
  | some hsignal =>
      refine bind_run (lift hsignal.1) fun set => ?_
      cases set with
      | true => exact C.pure _
      | false => exact pure_run ()

theorem rel_decode (hworld : first.Matches C listing paired second) (state : Listing.State)
    (packet : List UInt8) :
    C.Rel (Listing.decode first state packet).run (Listing.decode second state packet).run :=
  bind_run (forM_run (fun _ => lift (hworld.log _)) _) fun _ =>
    bind_run (C.pure _) fun _ => bind_run (lift (hworld.log _)) fun _ => pure_run _

theorem rel_proceed (hworld : first.Matches C listing paired second)
    (hsocket : paired socket socket') (state : Listing.State) :
    C.Rel (listing.proceed first socket state).run (listing.proceed second socket' state).run := by
  have hexchange : C.Rel (listing.exchange first socket state).run
      (listing.exchange second socket' state).run :=
    bind_run (rel_ask hworld hsocket _) fun _ => hworld.receive hsocket
  refine bind_run (rel_pause hworld) fun _ =>
    bind_run (rel_checkCancelled hworld) fun _ => bind_run (lift hexchange) fun result => ?_
  cases result with
  | ok packet => exact rel_decode hworld state packet
  | error fault =>
      by_cases hretry : fault.isTransport ∧ 0 < state.retriesLeft
      · simp only [if_pos hretry]
        exact bind_run (lift (hworld.log _)) fun _ => pure_run _
      · simp only [if_neg hretry]
        exact C.pure _

/-- Steps are related if the worlds are, and the listeners where a page is delivered. -/
theorem rel_step (hworld : first.Matches C listing paired second) (hsocket : paired socket socket')
    (state : Listing.State)
    (hlistener : state.phase = .delivering → ∀ page, C.Rel (listener page) (listener' page)) :
    C.Rel (listing.step first listener socket state)
      (listing.step second listener' socket' state) := by
  have htransition : C.Rel (listing.transition first listener socket state).run
      (listing.transition second listener' socket' state).run := by
    rw [Listing.transition, Listing.transition]
    cases phase : state.phase with
    | start =>
        exact bind_run (rel_checkCancelled hworld) fun _ =>
          bind_run (rel_ask hworld hsocket _) fun _ => pure_run _
    | awaiting => exact bind_run (hworld.receive hsocket) fun _ => rel_decode hworld _ _
    | delivering =>
        refine bind_run (lift (hlistener phase _)) fun result => ?_
        cases result <;> exact C.pure _
    | continuing => exact rel_proceed hworld hsocket state
    | done | failed => exact pure_run _
  refine C.bind htransition fun result => ?_
  cases result <;> exact C.pure _

/-! ## listings -/

theorem rel_steps (hworld : first.Matches C listing paired second)
    (hlistener : ∀ page, C.Rel (listener page) (listener' page)) (hsocket : paired socket socket')
    (limit : Nat) (state : Listing.State) :
    C.Rel (listing.steps first listener socket limit state)
      (listing.steps second listener' socket' limit state) := by
  induction limit generalizing state with
  | zero =>
      rw [Listing.steps, Listing.steps]
      cases state.isFinished <;> exact C.pure _
  | succ limit ih =>
      rw [Listing.steps, Listing.steps]
      cases state.isFinished with
      | true => exact C.pure _
      | false =>
          refine C.bind (rel_step hworld hsocket state fun _ => hlistener) fun result => ?_
          cases result with
          | ok next => exact ih next
          | error fault => exact C.pure _

/-- **Listings are related if their worlds and their listeners are.** -/
theorem rel_run (hworld : first.Matches C listing paired second)
    (hconnect : C.Connects paired
      (first.transport.connect listing.master listing.settings.timeout)
      (second.transport.connect listing.master listing.settings.timeout))
    (hlistener : ∀ page, C.Rel (listener page) (listener' page)) (limit : Nat) :
    C.Rel (listing.run first listener limit) (listing.run second listener' limit) := by
  refine C.bind (hworld.log _) fun _ =>
    hconnect _ _ (fun fault => C.pure _) fun socket socket' hsocket => ?_
  refine C.bind (rel_steps hworld hlistener hsocket limit _) fun result =>
    C.bind (hworld.close hsocket) fun _ => ?_
  cases result with
  | error fault => exact C.pure _
  | ok state => exact C.bind (hworld.log _) fun _ => C.pure _

/-- **So are all listings of a query.** -/
theorem rel_listBatches (client : Client)
    (hworld : ∀ batch, first.Matches C ⟨client.master, batch, client.settings⟩ paired second)
    (hconnect : C.Connects paired (first.transport.connect client.master client.settings.timeout)
      (second.transport.connect client.master client.settings.timeout))
    (hlistener : ∀ page, C.Rel (listener page) (listener' page)) (limit number : Nat) (total : Int)
    (batches : List (List String)) :
    C.Rel (Browser.listBatches client first listener limit number total batches)
      (Browser.listBatches client second listener' limit number total batches) := by
  induction batches generalizing number total with
  | nil => exact C.pure _
  | cons batch rest ih =>
      refine C.bind (forM (fun _ => (hworld batch).log _) _) fun _ =>
        C.bind ((hworld batch).log _) fun _ =>
          C.bind (rel_run (hworld batch) hconnect hlistener limit) fun result => ?_
      cases result with
      | ok state => exact ih _ _
      | error fault => exact C.pure _

/-- **And so is the whole query**, if the browsers are looked at and changed alike. -/
theorem rel_query [MonadStateOf Browser m] [MonadStateOf Browser n] (client : Client)
    (hget : C.Rel (getThe Browser : m Browser) (getThe Browser))
    (hmodify : ∀ change, C.Rel (modifyThe Browser change : m PUnit) (modifyThe Browser change))
    (hworld : ∀ batch, first.Matches C ⟨client.master, batch, client.settings⟩ paired second)
    (hconnect : C.Connects paired (first.transport.connect client.master client.settings.timeout)
      (second.transport.connect client.master client.settings.timeout))
    (hlistener : ∀ page, C.Rel (listener page) (listener' page)) (limit : Nat) :
    C.Rel (Browser.query client first listener limit)
      (Browser.query client second listener' limit) := by
  refine C.bind hget fun browser => C.bind (hmodify _) fun _ =>
    C.bind (rel_listBatches client hworld hconnect hlistener limit 1 0 _) fun result =>
      C.bind (hmodify _) fun _ => ?_
  cases result with
  | error fault => exact C.pure _
  | ok total => exact C.bind ((hworld []).log _) fun _ => C.pure _

end Correspondence

end ServerBrowser
