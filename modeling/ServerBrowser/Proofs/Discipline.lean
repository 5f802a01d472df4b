import ServerBrowser.Proofs.Correspondence

/-!
# ServerBrowser.Proofs.Discipline

What a query keeps, in whatever monad it runs.  A discipline is a property of actions that holds of
those that do nothing, and of actions in a row of which each has it.  A query reaches its world and
its listener by the operations that it is given, and so it follows every discipline that these
follow: `Discipline.follows_listBatches` says so of all listings of a query.

Each action that follows a discipline corresponds to itself (`Discipline.alike`).
-/

namespace ServerBrowser

/-- A property of actions that is kept by putting actions in a row. -/
structure Discipline (m : Type → Type) [Monad m] where
  Follows : {α : Type} → m α → Prop
  pure : ∀ {α : Type} (a : α), Follows (Pure.pure a)
  bind : ∀ {α β : Type} {action : m α} {next : α → m β}, Follows action →
    (∀ a, Follows (next a)) → Follows (action >>= next)

variable {m : Type → Type} [Monad m] {S : Type} {D : Discipline m} {world : Surroundings m S}
  {listener : Listener m}

/-- Whether all operations of a world follow a discipline. -/
structure Surroundings.Follows (world : Surroundings m S) (D : Discipline m) : Prop where
  connect : ∀ master timeout, D.Follows (world.transport.connect master timeout)
  send : ∀ socket packet, D.Follows (world.transport.send socket packet)
  receive : ∀ socket, D.Follows (world.transport.receive socket)
  close : ∀ socket, D.Follows (world.transport.close socket)
  sleep : ∀ time, D.Follows (world.sleep time)
  isSet : ∀ signal, world.cancel = some signal → D.Follows signal.isSet
  wait : ∀ signal, world.cancel = some signal → ∀ time, D.Follows (signal.wait time)
  log : ∀ record, D.Follows (world.log record)

/-- The correspondence of every action with itself that follows a discipline. -/
def Discipline.alike (D : Discipline m) : Correspondence m m where
  Rel first second := first = second ∧ D.Follows first
  pure a := ⟨rfl, D.pure a⟩
  bind := by
    intro α β first second next next' hfirst hnext
    obtain ⟨rfl, hfollows⟩ := hfirst
    have hsame : next = next' := funext fun a => (hnext a).1
    exact ⟨by rw [hsame], D.bind hfollows fun a => (hnext a).2⟩

theorem Surroundings.Follows.corresponds (h : world.Follows D) (listing : Listing) :
    world.Corresponds D.alike listing world where
  send socket _ packet _ := ⟨rfl, h.send socket packet⟩
  receive socket := ⟨rfl, h.receive socket⟩
  close socket := ⟨rfl, h.close socket⟩
  sleep := ⟨rfl, h.sleep _⟩
  cancel := by
    cases hcancel : world.cancel with
    | none => exact .none
    | some signal =>
        exact .some ⟨⟨rfl, h.isSet signal hcancel⟩, rfl, h.wait signal hcancel _⟩
  log record := ⟨rfl, h.log record⟩

/-- The listings of a query follow a discipline that its world follows while they run, that
connecting to their server follows, and that its listener follows. -/
theorem Discipline.follows_listBatches_of_connect [LawfulMonad m] (client : Client)
    (hworld : ∀ batch, world.Corresponds D.alike ⟨client.master, batch, client.settings⟩ world)
    (hconnect : D.Follows (world.transport.connect client.master client.settings.timeout))
    (hlistener : ∀ page, D.Follows (listener page)) (limit number : Nat) (total : Int)
    (batches : List (List String)) :
    D.Follows (Browser.listBatches client world listener limit number total batches) :=
  (Correspondence.rel_listBatches client (fun _ => (hworld _).matches)
    (Correspondence.connects_of_rel (C := D.alike) ⟨rfl, hconnect⟩)
    (fun page => ⟨rfl, hlistener page⟩) limit number total batches).2

/-- **The listings of a query follow every discipline that its world and its listener follow.** -/
theorem Discipline.follows_listBatches [LawfulMonad m] (client : Client) (hworld : world.Follows D)
    (hlistener : ∀ page, D.Follows (listener page)) (limit number : Nat) (total : Int)
    (batches : List (List String)) :
    D.Follows (Browser.listBatches client world listener limit number total batches) :=
  follows_listBatches_of_connect client (fun _ => hworld.corresponds _) (hworld.connect _ _)
    hlistener limit number total batches

end ServerBrowser
