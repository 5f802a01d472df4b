import Mathlib.Data.List.Forall2
import ServerBrowser.Proofs.Discipline
import ServerBrowser.Proofs.Lifted

/-!
# ServerBrowser.Proofs.Browser.Conversations

What a row of listings says over its sockets, in whatever monad it runs.  The packets of each socket
are one conversation, and a world is overheard where they are written down.  That changes nothing
(`Surroundings.overheard_corresponds`, `Browser.fst_map_query`), and of a row of batches it writes
down one conversation for each, in their order, with nothing but queries for that batch
(`listBatches_converses`): of all batches if the listings succeed, and up to the one that fails
otherwise.  Who listens to the pages has no part in it.
-/

namespace ServerBrowser

/-- The packets that were sent over each socket, in the order in which the sockets were opened. -/
abbrev Conversations := List (List (List UInt8))

variable {m : Type → Type} [Monad m] {σ α β S : Type}

/-! ## what is given and left -/

/-- Whether an action that starts where `pre` holds of what is kept gives and leaves only what
`post` allows.  Nothing is known of the monad below, so it is said by an action there whose results
carry `post` with them. -/
def Ensures (pre : σ → Prop) (action : StateT σ m α) (post : α → σ → Prop) : Prop :=
  ∀ kept, pre kept → ∃ sure : m { result : α × σ // post result.1 result.2 },
    Subtype.val <$> sure = action.run kept

namespace Ensures

variable {pre pre' holds : σ → Prop} {post post' between : α → σ → Prop} {last : β → σ → Prop}
  {action : StateT σ m α}

theorem of_imp (h : Ensures pre action post) (hpre : ∀ kept, pre' kept → pre kept) :
    Ensures pre' action post :=
  fun kept hkept => h kept (hpre kept hkept)

/-- It is enough to look at each start on its own. -/
theorem of_each (h : ∀ kept, pre kept → Ensures (· = kept) action post) :
    Ensures pre action post :=
  fun kept hkept => h kept hkept kept rfl

variable [LawfulMonad m]

theorem pure {a : α} (h : ∀ kept, pre kept → post a kept) :
    Ensures pre (Pure.pure a : StateT σ m α) post :=
  fun kept hpre => ⟨Pure.pure ⟨(a, kept), h kept hpre⟩, by simp⟩

theorem bind {next : α → StateT σ m β} (h : Ensures pre action between)
    (hnext : ∀ a, Ensures (between a) (next a) last) : Ensures pre (action >>= next) last := by
  intro kept hpre
  obtain ⟨sure, hsure⟩ := h kept hpre
  have hrest (result : { result : α × σ // between result.1 result.2 }) :=
    hnext result.val.1 result.val.2 result.property
  refine ⟨sure >>= fun result => (hrest result).choose, ?_⟩
  rw [StateT.run_bind, ← hsure, bind_map_left, map_bind]
  exact bind_congr fun result => (hrest result).choose_spec

theorem imp (h : Ensures pre action post) (hpost : ∀ a kept, post a kept → post' a kept) :
    Ensures pre action post' := by
  intro kept hpre
  obtain ⟨sure, hsure⟩ := h kept hpre
  refine ⟨(fun result => ⟨result.val, hpost _ _ result.property⟩) <$> sure, ?_⟩
  rw [← hsure, ← comp_map]
  rfl

/-- What is lifted gives anything, and leaves what is kept as it is. -/
theorem lift (action : m α) (holds : σ → Prop) :
    Ensures holds (monadLift action : StateT σ m α) fun _ => holds := by
  intro kept hkept
  refine ⟨(fun a => ⟨(a, kept), hkept⟩) <$> action, ?_⟩
  rw [← comp_map, StateT.run_monadLift, bind_pure_comp]
  rfl

theorem modify {change : σ → σ} (h : ∀ kept, pre kept → holds (change kept)) :
    Ensures pre (modify change : StateT σ m Unit) fun _ => holds :=
  fun kept hpre => ⟨Pure.pure ⟨((), change kept), h kept hpre⟩, by simp⟩

/-- A fault ends a row, and what comes after it is not done. -/
theorem bind_run {action : ExceptT Fault (StateT σ m) α} {next : α → ExceptT Fault (StateT σ m) β}
    {between : Except Fault α → σ → Prop} {last : Except Fault β → σ → Prop}
    (h : Ensures pre action.run between) (hok : ∀ a, Ensures (between (.ok a)) (next a).run last)
    (herror : ∀ fault kept, between (.error fault) kept → last (.error fault) kept) :
    Ensures pre (action >>= next).run last := by
  rw [ExceptT.run_bind]
  refine h.bind fun result => ?_
  cases result with
  | ok a => exact hok a
  | error fault => exact pure (herror fault)

end Ensures

/-- The actions that leave what is kept such that something still holds of it. -/
def Discipline.keeping [LawfulMonad m] (holds : σ → Prop) : Discipline (StateT σ m) where
  Follows action := Ensures holds action fun _ => holds
  pure _ := .pure fun _ h => h
  bind h hnext := h.bind hnext

/-! ## overheard worlds -/

namespace Conversations

/-- A socket is opened. -/
def opened : StateT Conversations m Unit :=
  modify (· ++ [[]])

/-- A packet is sent over the socket opened last. -/
def said (packet : List UInt8) : StateT Conversations m Unit :=
  modify fun talks => talks.dropLast ++ [talks.getLastD [] ++ [packet]]

end Conversations

/-- A world in which is written down what is sent. -/
def Surroundings.overheard (world : Surroundings m S) : Surroundings (StateT Conversations m) S :=
  let lifted : Surroundings (StateT Conversations m) S := world.lift
  { lifted with
    transport := { lifted.transport with
      connect := fun master timeout => do
        Conversations.opened
        lifted.transport.connect master timeout
      send := fun socket packet => do
        Conversations.said packet
        lifted.transport.send socket packet } }

/-- The same listener for a monad with more in it. -/
def Listener.lift (listener : Listener m) : Listener (StateT σ m) :=
  fun page => monadLift (listener page)

variable [LawfulMonad m] {world : Surroundings m S} {listener : Listener m} {listing : Listing}
  {earlier : Conversations} {least : Nat} {socket : S} {state : Listing.State}

open Correspondence (forgetting forgetting_lift)

/-- To write down what is sent changes nothing. -/
theorem Surroundings.overheard_corresponds (listing : Listing) (world : Surroundings m S) :
    world.overheard.Corresponds forgetting listing world := by
  have hlift : (world.lift : Surroundings (StateT Conversations m) S).Corresponds forgetting listing
      (world.lift : Surroundings m S) := corresponds_lift forgetting_lift listing world
  rw [world.lift_self] at hlift
  exact { hlift with
    send := fun socket _ packet _ kept => by
      simp [overheard, lift, Transport.lift, Conversations.said] }

/-- **An overheard query gives and does the same as if no one overheard it.** -/
theorem Browser.fst_map_query [MonadStateOf Browser m] (client : Client) (world : Surroundings m S)
    (listener : Listener m) (limit : Nat) (talks : Conversations) :
    Prod.fst <$> (query client world.overheard listener.lift limit).run talks =
      query client world listener limit := by
  have hconnect (kept : Conversations) : Prod.fst <$>
      (world.overheard.transport.connect client.master client.settings.timeout).run kept =
        world.transport.connect client.master client.settings.timeout := by
    simp [Surroundings.overheard, Surroundings.lift, Transport.lift, Conversations.opened]
  exact Correspondence.rel_query client (forgetting_lift (getThe Browser))
    (fun change => forgetting_lift (modifyThe Browser change))
    (fun _ => (world.overheard_corresponds _).matches) (Correspondence.connects_of_rel hconnect)
    (fun page => forgetting_lift (listener page)) limit talks

/-! ## one conversation -/

namespace Listing

/-- Whether a packet is one of the queries of a listing. -/
def Writes (listing : Listing) (packet : List UInt8) : Prop :=
  ∃ cursor, (listing.query cursor).toBytes = .ok packet

/-- Whether the last conversation, after the earlier ones, is one of a listing: of at least so many
packets, which are all its queries. -/
def Talks (listing : Listing) (earlier : Conversations) (least : Nat) (talks : Conversations) :
    Prop :=
  ∃ packets, talks = earlier ++ [packets] ∧ least ≤ packets.length ∧
    ∀ packet ∈ packets, listing.Writes packet

theorem Talks.said {talks : Conversations} {packet : List UInt8}
    (h : listing.Talks earlier least talks) (hpacket : listing.Writes packet) :
    listing.Talks earlier (least + 1) (talks.dropLast ++ [talks.getLastD [] ++ [packet]]) := by
  obtain ⟨packets, rfl, hleast, hpackets⟩ := h
  refine ⟨packets ++ [packet], by simp, by simpa using hleast, fun other hother => ?_⟩
  obtain hother | hother := List.mem_append.1 hother
  · exact hpackets other hother
  · rw [List.mem_singleton.1 hother]
    exact hpacket

theorem Talks.mono {talks : Conversations} {fewer : Nat} (h : listing.Talks earlier least talks)
    (hfewer : fewer ≤ least) : listing.Talks earlier fewer talks := by
  obtain ⟨packets, rfl, hleast, hpackets⟩ := h
  exact ⟨packets, rfl, Nat.le_trans hfewer hleast, hpackets⟩

/-- What a listing has said where it comes to a state: nothing but its queries, and one of them at
least unless it has failed. -/
def HasAsked (listing : Listing) (earlier : Conversations) (result : Except Fault State)
    (talks : Conversations) : Prop :=
  listing.Talks earlier 0 talks ∧
    ∀ next, result = .ok next → next.phase ≠ .failed → listing.Talks earlier 1 talks

/-- Sending a query makes a conversation longer. -/
theorem ensures_send (world : Surroundings m S) (socket : S) {packet : List UInt8}
    (hpacket : listing.Writes packet) :
    Ensures (listing.Talks earlier least) (world.overheard.transport.send socket packet)
      fun _ => listing.Talks earlier (least + 1) :=
  Ensures.bind (Ensures.modify fun _ h => h.said hpacket) fun _ => .lift _ _

/-- A world that a listing talks to goes on with its conversation. -/
theorem overheard_keeps (listing : Listing) (world : Surroundings m S) (earlier : Conversations)
    (least : Nat) :
    world.overheard.Corresponds (Discipline.keeping (listing.Talks earlier least)).alike listing
      world.overheard := by
  have hlift : (world.lift : Surroundings (StateT Conversations m) S).Corresponds
      (Discipline.keeping (listing.Talks earlier least)).alike listing world.lift :=
    Surroundings.corresponds_lift (C := (Discipline.keeping (listing.Talks earlier least)).alike)
      (fun action => ⟨rfl, .lift action _⟩) listing world
  exact { hlift with
    send := fun socket cursor packet hpacket => ⟨rfl,
      (ensures_send world socket ⟨cursor, hpacket⟩).imp fun _ _ h => h.mono (Nat.le_succ least)⟩ }

/-- To ask is to send a query, unless there is none for the cursor. -/
theorem ensures_ask (world : Surroundings m S) (socket : S) (cursor : ServerAddress) :
    Ensures (listing.Talks earlier least) (listing.ask world.overheard socket cursor).run
      fun result talks => listing.Talks earlier least talks ∧
        (result = .ok () → listing.Talks earlier (least + 1) talks) := by
  cases hpacket : (listing.query cursor).toBytes with
  | error fault =>
      have hask : (listing.ask world.overheard socket cursor).run = pure (.error fault) := by
        simp [ask, hpacket, ExceptT.run_bind]
      rw [hask]
      exact .pure fun talks h => ⟨h, by simp⟩
  | ok packet =>
      have hask : (listing.ask world.overheard socket cursor).run =
          world.overheard.transport.send socket packet := by
        simp [ask, hpacket, ExceptT.run_bind]
      rw [hask]
      exact (ensures_send world socket ⟨cursor, hpacket⟩).imp fun _ _ h =>
        ⟨h.mono (Nat.le_succ least), fun _ => h⟩

/-- The first step of a listing asks, unless it fails. -/
theorem ensures_step_start (world : Surroundings m S) (upper : Listener (StateT Conversations m))
    (socket : S) (hphase : state.phase = .start) :
    Ensures (listing.Talks earlier 0) (listing.step world.overheard upper socket state)
      (listing.HasAsked earlier) := by
  have hbegin : Ensures (listing.Talks earlier 0)
      (listing.begin world.overheard socket state).run fun result talks =>
        listing.Talks earlier 0 talks ∧
          ∀ next, result = .ok next → listing.Talks earlier 1 talks := by
    have hcheck : Ensures (listing.Talks earlier 0) (checkCancelled world.overheard).run
        fun _ => listing.Talks earlier 0 :=
      (Correspondence.rel_checkCancelled (overheard_keeps listing world earlier 0).matches).2
    refine Ensures.bind_run hcheck (fun _ => Ensures.bind_run (ensures_ask world socket .null)
      (fun _ => Ensures.pure fun _ h => ⟨h.1, fun _ _ => h.2 rfl⟩) ?_) ?_
    · exact fun fault talks h => ⟨h.1, by simp⟩
    · exact fun fault talks h => ⟨h, by simp⟩
  rw [step, transition, hphase]
  refine hbegin.bind fun result => ?_
  cases result with
  | ok next => exact Ensures.pure fun talks h => ⟨h.1, fun _ _ _ => h.2 next rfl⟩
  | error fault =>
      refine Ensures.pure fun talks h => ⟨h.1, fun next hnext hfailed => ?_⟩
      rw [State.afterFault] at hnext
      split at hnext
      · obtain rfl := Except.ok.inj hnext
        exact absurd rfl hfailed
      · cases hnext

/-- A listing that has asked, or failed before that, goes on with its conversation. -/
theorem ensures_steps_of_asked (world : Surroundings m S) (listener : Listener m) (socket : S)
    (limit : Nat) (state : State) :
    Ensures (listing.HasAsked earlier (.ok state))
      (listing.steps world.overheard listener.lift socket limit state)
      (listing.HasAsked earlier) := by
  by_cases hfailed : state.phase = .failed
  · have hfinished : state.isFinished = true := by simp [State.isFinished, hfailed]
    rw [listing.steps_of_over world.overheard socket listener.lift limit hfinished]
    exact .pure fun _ h => h
  · have hkeeps : Ensures (listing.Talks earlier 1)
        (listing.steps world.overheard listener.lift socket limit state)
        fun _ => listing.Talks earlier 1 :=
      (Correspondence.rel_steps (overheard_keeps listing world earlier 1).matches
        (fun _ => ⟨rfl, .lift _ _⟩) rfl limit state).2
    refine (hkeeps.imp fun _ _ h => ?_).of_imp fun talks h => h.2 state rfl hfailed
    exact ⟨h.mono (Nat.zero_le 1), fun _ _ _ => h⟩

/-- A listing that does not fail has asked. -/
theorem ensures_steps (world : Surroundings m S) (listener : Listener m) (socket : S)
    (limit : Nat) :
    Ensures (listing.Talks earlier 0)
      (listing.steps world.overheard listener.lift socket limit listing.initial)
      (listing.HasAsked earlier) := by
  have hstarts : listing.initial.isFinished = false := rfl
  cases limit with
  | zero =>
      rw [steps, if_neg (by simp [hstarts])]
      exact .pure fun _ h => ⟨h, by simp⟩
  | succ limit =>
      rw [steps, if_neg (by simp [hstarts])]
      refine (ensures_step_start world listener.lift socket rfl).bind fun result => ?_
      cases result with
      | error fault => exact .pure fun _ h => ⟨h.1, by simp⟩
      | ok next => exact ensures_steps_of_asked world listener socket limit next

/-- **A listing has a conversation of its own.**  It is empty only if the listing fails. -/
theorem ensures_run (listing : Listing) (world : Surroundings m S) (listener : Listener m)
    (limit : Nat) (earlier : Conversations) :
    Ensures (· = earlier) (listing.run world.overheard listener.lift limit)
      fun result talks => listing.Talks earlier 0 talks ∧
        ∀ state, result = .ok state → listing.Talks earlier 1 talks := by
  have hlog (record : Log.Record) (holds : Conversations → Prop) :
      Ensures holds (world.overheard.log record) fun _ => holds := .lift _ holds
  have hopened : Ensures (· = earlier) Conversations.opened
      fun (_ : Unit) => listing.Talks earlier 0 :=
    .modify (m := m) fun talks h => ⟨[], by rw [h], by simp, by simp⟩
  have hconnect : Ensures (· = earlier)
      (world.overheard.transport.connect listing.master listing.settings.timeout)
      fun _ => listing.Talks earlier 0 := hopened.bind fun _ => .lift _ _
  rw [run]
  refine (hlog _ _).bind fun _ => hconnect.bind fun result => ?_
  cases result with
  | error fault => exact .pure fun _ h => ⟨h, by simp⟩
  | ok socket =>
      refine (ensures_steps world listener socket limit).bind fun result => ?_
      refine Ensures.bind (.lift (world.transport.close socket) _) fun _ => ?_
      cases result with
      | error fault => exact .pure fun _ h => ⟨h.1, by simp⟩
      | ok state =>
          refine (hlog _ _).bind fun _ => .pure fun talks h => ⟨h.1, fun next hnext => ?_⟩
          rw [outcome] at hnext
          split at hnext
          · cases hnext
          · next hphase => exact h.2 state rfl hphase

end Listing

/-! ## batch after batch -/

/-- Whether packets are a conversation about a batch: queries for it, at least one, and nothing
else. -/
def Client.TalksAbout (client : Client) (batch : List String) (packets : List (List UInt8)) :
    Prop :=
  packets ≠ [] ∧ ∀ packet ∈ packets, Listing.Writes ⟨client.master, batch, client.settings⟩ packet

namespace Browser

/-- Whether conversations are those of a row of batches, one for each and in their order.  If the
row has failed they end with the batch that failed, about which nothing need have been said. -/
def Converses (client : Client) (batches : List (List String)) (talks : Conversations) :
    Except Fault Int → Prop
  | .ok _ => List.Forall₂ client.TalksAbout batches talks
  | .error _ => ∃ listed batch rest before packets,
      batches = listed ++ batch :: rest ∧ talks = before ++ [packets] ∧
      List.Forall₂ client.TalksAbout listed before ∧
      ∀ packet ∈ packets, Listing.Writes ⟨client.master, batch, client.settings⟩ packet

variable {client : Client} {batch : List String} {rest : List (List String)}
  {packets : List (List UInt8)} {talks : Conversations} {result : Except Fault Int}

theorem Converses.cons (hbatch : client.TalksAbout batch packets)
    (h : Converses client rest talks result) :
    Converses client (batch :: rest) (packets :: talks) result := by
  cases result with
  | ok total => exact .cons hbatch h
  | error fault =>
      obtain ⟨listed, failed, left, before, last, rfl, rfl, hlisted, hlast⟩ := h
      exact ⟨batch :: listed, failed, left, packets :: before, last, rfl, rfl, .cons hbatch hlisted,
        hlast⟩

/-- **A row of batches is talked about batch after batch.** -/
theorem listBatches_converses (client : Client) (world : Surroundings m S) (listener : Listener m)
    (limit number : Nat) (total : Int) (batches : List (List String)) (earlier : Conversations) :
    Ensures (· = earlier)
      (listBatches client world.overheard listener.lift limit number total batches)
      fun result talks => ∃ since, talks = earlier ++ since ∧
        Converses client batches since result := by
  induction batches generalizing number total earlier with
  | nil => exact .pure fun talks h => ⟨[], by rw [h, List.append_nil], .nil⟩
  | cons batch rest ih =>
      have hlog (record : Log.Record) :
          Ensures (· = earlier) (world.overheard.log record) fun _ => (· = earlier) := .lift _ _
      have hremarks : Ensures (· = earlier)
          ((Filter.batchRemarks client.settings.filterBudget batch).forM world.overheard.log)
          fun _ => (· = earlier) :=
        (Correspondence.forM (C := (Discipline.keeping (m := m) (· = earlier)).alike)
          (fun record => ⟨rfl, hlog record⟩) _).2
      rw [listBatches]
      refine hremarks.bind fun _ => (hlog _).bind fun _ =>
        (Listing.ensures_run _ world listener limit earlier).bind fun listed => ?_
      cases listed with
      | error fault =>
          refine .pure fun talks h => ?_
          obtain ⟨packets, rfl, -, hpackets⟩ := h.1
          exact ⟨[packets], rfl, [], batch, rest, [], packets, rfl, rfl, .nil, hpackets⟩
      | ok state =>
          refine .of_each fun talks h => ?_
          obtain ⟨packets, rfl, hleast, hpackets⟩ := h.2 state rfl
          have hbatch : client.TalksAbout batch packets :=
            ⟨List.length_pos_iff.1 hleast, hpackets⟩
          refine (ih _ _ (earlier ++ [packets])).imp fun result talks h => ?_
          obtain ⟨since, rfl, hsince⟩ := h
          exact ⟨packets :: since, by simp, hsince.cons hbatch⟩

/-- **A query talks about the batches of the filters that it finds when it starts.** -/
theorem query_converses [MonadStateOf Browser m] (client : Client) (world : Surroundings m S)
    (listener : Listener m) (limit : Nat) :
    ∃ rest : Browser → StateT Conversations m (Except Fault Int),
      query client world.overheard listener.lift limit = getThe Browser >>= rest ∧
      ∀ browser, Ensures (· = []) (rest browser) fun result talks =>
        Converses client (Filter.batches client.settings.filterBudget browser.filters) talks
          result := by
  refine ⟨_, rfl, fun browser => ?_⟩
  have hmodify (change : Browser → Browser) (holds : Conversations → Prop) :
      Ensures holds (modifyThe Browser change : StateT Conversations m PUnit) fun _ => holds :=
    .lift (modifyThe Browser change) holds
  refine (hmodify _ _).bind fun _ =>
    (listBatches_converses client world listener limit 1 0 _ []).bind fun result =>
      (hmodify _ _).bind fun _ => ?_
  cases result with
  | error fault => exact .pure fun talks ⟨since, htalks, h⟩ => by rwa [htalks]
  | ok total =>
      exact (Ensures.lift (world.log _) _).bind fun _ => .pure fun talks ⟨since, htalks, h⟩ => by
        rwa [htalks]

end Browser

end ServerBrowser
