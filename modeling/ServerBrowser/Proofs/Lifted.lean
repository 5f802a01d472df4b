import ServerBrowser.Proofs.Correspondence
import ServerBrowser.Proofs.Listing.Move

/-!
# ServerBrowser.Proofs.Lifted

Queries in a monad with more in it.  A listener may keep something for itself: a state on top of the
monad that the query runs in.  The query does not know of it.  All its operations are lifted from
below, so a step that delivers no page leaves that state as it is (`Listing.step_lift`), and a step
that delivers one leaves what its listener leaves (`Listing.step_of_delivering`).

Two listeners that keep different things do so independently of the query.  If what one of them
keeps can be read off what the other one keeps, then this is so after the whole query
(`Correspondence.along`).
-/

namespace ServerBrowser

variable {m n n' : Type → Type} {σ τ α S : Type}

/-! ## lifted worlds -/

/-- Lifting a world into the monad that it is in changes nothing. -/
theorem Surroundings.lift_self (world : Surroundings m S) :
    (world.lift : Surroundings m S) = world := by
  obtain ⟨transport, sleep, cancel, log⟩ := world
  cases cancel <;> rfl

/-- Two liftings of a world correspond if every action does to its lifting. -/
theorem Surroundings.corresponds_lift [Monad n] [Monad n'] [MonadLiftT m n] [MonadLiftT m n']
    {C : Correspondence n n'}
    (h : ∀ {α : Type} (action : m α), C.Rel (monadLift action : n α) (monadLift action : n' α))
    (listing : Listing) (world : Surroundings m S) :
    (world.lift : Surroundings n S).Corresponds C listing world.lift where
  send _ _ _ _ := h _
  receive _ := h _
  close _ := h _
  sleep := h _
  cancel := by
    show Option.Rel _ (world.cancel.map _) (world.cancel.map _)
    cases world.cancel with
    | none => exact .none
    | some signal => exact .some ⟨h _, h _⟩
  log _ := h _

/-- A listing that is over takes no step, in whatever monad. -/
theorem Listing.steps_of_over [Monad m] (listing : Listing) (world : Surroundings m S) (socket : S)
    (listener : Listener m) (limit : Nat) {state : Listing.State}
    (h : state.isFinished = true) :
    listing.steps world listener socket limit state = pure (.ok state) := by
  cases limit <;> rw [Listing.steps, if_pos h]

variable [Monad m] [LawfulMonad m]

/-! ## correspondences -/

namespace Correspondence

/-- The correspondence of actions with their liftings. -/
def lifted : Correspondence m (StateT σ m) where
  Rel action upper := upper = monadLift action
  pure a := by
    apply StateT.ext
    simp
  bind := by
    rintro α β first _ next next' rfl hnext
    apply StateT.ext
    intro kept
    simp [hnext]

/-- The correspondence of actions that keep something with actions that give and do the same without
it. -/
def forgetting : Correspondence (StateT σ m) m where
  Rel upper action := ∀ kept, Prod.fst <$> upper.run kept = action
  pure a kept := by simp
  bind := by
    intro α β upper action next next' hupper hnext kept
    rw [StateT.run_bind, map_bind]
    simp only [hnext]
    rw [← hupper kept, bind_map_left]

theorem forgetting_lift (action : m α) :
    (forgetting (σ := σ)).Rel (monadLift action : StateT σ m α) action := by
  intro kept
  simp

/-- The correspondence of actions that keep something with actions that keep what can be read off
it. -/
def along (read : σ → τ) : Correspondence (StateT σ m) (StateT τ m) where
  Rel first second := ∀ kept, second.run (read kept) =
    (fun result => (result.1, read result.2)) <$> first.run kept
  pure a kept := by simp
  bind := by
    intro α β first second next next' hfirst hnext kept
    simp [hfirst, hnext]

end Correspondence

/-! ## playing with something kept -/

namespace Scenario

variable {α β : Type} {kept kept' : σ} {browser browser' : Browser} {history history' : History}

/-- What is lifted leaves what is kept as it is. -/
theorem monadLift_play {action : Play α} {a : α}
    (h : action browser history = ((a, browser'), history')) (kept : σ) :
    (monadLift action : StateT σ Play α) kept browser history =
      (((a, kept), browser'), history') := by
  show ((((action browser history).1.1, kept), (action browser history).1.2),
    (action browser history).2) = _
  rw [h]

/-- A bind plays on from what its first action gives, leaves and keeps. -/
theorem keep_bind {action : StateT σ Play α} {next : α → StateT σ Play β} {a : α}
    (h : action kept browser history = (((a, kept'), browser'), history')) :
    (action >>= next) kept browser history = next a kept' browser' history' := by
  show next (action kept browser history).1.1.1 (action kept browser history).1.1.2
    (action kept browser history).1.2 (action kept browser history).2 = _
  rw [h]

theorem keep_map {action : StateT σ Play α} {a : α} (f : α → β)
    (h : action kept browser history = (((a, kept'), browser'), history')) :
    (f <$> action) kept browser history = (((f a, kept'), browser'), history') := by
  rw [map_eq_pure_bind, keep_bind h]
  rfl

/-- The correspondence of plays that give and do the same, and that keep up a relation between what
each of them keeps. -/
def sideBySide (related : σ → τ → Prop) : Correspondence (StateT σ Play) (StateT τ Play) where
  Rel {α} first second := ∀ kept kept' browser history, related kept kept' →
    ∃ (a : α) (left : σ) (left' : τ) (browser' : Browser) (history' : History),
      first kept browser history = (((a, left), browser'), history') ∧
      second kept' browser history = (((a, left'), browser'), history') ∧ related left left'
  pure a kept kept' browser history h := ⟨a, kept, kept', browser, history, rfl, rfl, h⟩
  bind := by
    intro α β first second next next' h hnext kept kept' browser history hkept
    obtain ⟨a, left, left', browser', history', hfirst, hsecond, hleft⟩ := h kept kept' browser
      history hkept
    obtain ⟨b, last, last', browser'', history'', hfirst', hsecond', hlast⟩ := hnext a left left'
      browser' history' hleft
    exact ⟨b, last, last', browser'', history'', (keep_bind hfirst).trans hfirst',
      (keep_bind hsecond).trans hsecond', hlast⟩

/-- What is lifted does not touch what is kept. -/
theorem sideBySide_lift (related : σ → τ → Prop) (action : Play α) :
    (sideBySide related).Rel (monadLift action) (monadLift action) :=
  fun kept kept' _ _ h => ⟨_, kept, kept', _, _, rfl, rfl, h⟩

end Scenario

/-! ## steps -/

namespace Listing

section Any

variable (listing : Listing) (world : Surroundings m S) (socket : S) {state : State}

/-- A step that delivers no page does not know who listens, nor what that one keeps. -/
theorem step_lift (listener : Listener m) (upper : Listener (StateT σ m))
    (hphase : state.phase ≠ .delivering) :
    listing.step (world.lift : Surroundings (StateT σ m) S) upper socket state =
      monadLift (listing.step world listener socket state) := by
  have hworld : (world.lift : Surroundings m S).Corresponds Correspondence.lifted listing
      (world.lift : Surroundings (StateT σ m) S) :=
    Surroundings.corresponds_lift (fun _ => rfl) listing world
  rw [world.lift_self] at hworld
  exact Correspondence.rel_step hworld.matches rfl state
    fun hdelivering => absurd hdelivering hphase

/-- A step that delivers a page does what its listener does with it. -/
theorem step_of_delivering (listener : Listener m) (hphase : state.phase = .delivering) :
    listing.step world listener socket state =
      (fun answer => state.settle (listing.handedBack state answer)) <$>
        listener state.page.servers := by
  have htransition : (listing.transition world listener socket state).run =
      listing.handedBack state <$> listener state.page.servers := by
    rw [transition, hphase]
    show (listing.deliver listener state).run = _
    rw [deliver, ExceptT.run_bind, ExceptT.run_lift, map_eq_pure_bind, map_eq_pure_bind, bind_assoc]
    refine bind_congr fun answer => ?_
    rw [pure_bind]
    cases answer <;> rfl
  rw [step, htransition, map_eq_pure_bind, map_eq_pure_bind, bind_assoc]
  refine bind_congr fun answer => ?_
  rw [pure_bind]
  cases listing.handedBack state answer <;> rfl

end Any

/-! ## steps that are played -/

section Play

open Scenario

variable (listing : Listing) (world : Surroundings Play S) (socket : S) {state next : State}
  {upper : Listener (StateT σ Play)} {kept kept' : σ} {browser browser' : Browser}
  {history history' : History}

/-- A step that delivers no page is played as it is without anything kept. -/
theorem step_lift_play {listener : Listener Play} {result : Except Fault State}
    (hphase : state.phase ≠ .delivering)
    (h : listing.step world listener socket state browser history = ((result, browser'), history'))
    (upper : Listener (StateT σ Play)) (kept : σ) :
    listing.step world.lift upper socket state kept browser history =
      (((result, kept), browser'), history') := by
  rw [listing.step_lift world socket listener upper hphase]
  exact monadLift_play h kept

/-- A delivery keeps what its listener keeps. -/
theorem step_deliver_play {answer : Except Fault (List ServerAddress)}
    (hphase : state.phase = .delivering)
    (h : upper state.page.servers kept browser history = (((answer, kept'), browser'), history')) :
    listing.step world.lift upper socket state kept browser history =
      (((state.settle (listing.handedBack state answer), kept'), browser'), history') := by
  rw [listing.step_of_delivering (Surroundings.lift world) socket upper hphase]
  exact keep_map _ h

variable {listing socket} {world : Surroundings (StateT σ Play) S} {limit : Nat}

/-- Nothing is done or kept once a listing is over. -/
theorem keep_steps_of_finished (h : state.isFinished = true) :
    listing.steps world upper socket limit state kept browser history =
      (((.ok state, kept), browser), history) := by
  rw [listing.steps_of_over world socket upper limit h]
  rfl

/-- A listing goes on from the state that a step gives, with what the step keeps. -/
theorem keep_steps_of_ok (h : state.isFinished = false)
    (hstep : listing.step world upper socket state kept browser history =
      (((.ok next, kept'), browser'), history')) :
    listing.steps world upper socket (limit + 1) state kept browser history =
      listing.steps world upper socket limit next kept' browser' history' := by
  rw [steps, if_neg (by simp [h])]
  exact keep_bind hstep

/-- A fault that leaves a step ends the listing. -/
theorem keep_steps_of_error {fault : Fault} (h : state.isFinished = false)
    (hstep : listing.step world upper socket state kept browser history =
      (((.error fault, kept'), browser'), history')) :
    listing.steps world upper socket (limit + 1) state kept browser history =
      (((.error fault, kept'), browser'), history') := by
  rw [steps, if_neg (by simp [h])]
  exact keep_bind hstep

end Play

end Listing

end ServerBrowser
