import ServerBrowser.Proofs.Scenario

/-!
# ServerBrowser.Proofs.Yields

What a played action gives as its result, whatever happened before: `Yields action holds` says that
`holds` is true of the result for every browser and every history.  The rules follow the shape of an
action: pure results, binds, and binds that a fault ends.
-/

namespace ServerBrowser

/-- Whether a fault is one of the family, or says that the steps are used up. -/
def Fault.IsExpected (fault : Fault) : Prop :=
  fault.inFamily = true ∨ fault = .exhausted

namespace Scenario

variable {α β : Type} {holds holds' : α → Prop}

/-- Whatever happened before, the result of an action is one that `holds` is true of. -/
def Yields (action : Play α) (holds : α → Prop) : Prop :=
  ∀ browser history, holds (action browser history).1.1

/-- A result that is kept, or a fault that is allowed. -/
def Ends (kept : α → Prop) (allowed : Fault → Prop) : Except Fault α → Prop
  | .ok a => kept a
  | .error fault => allowed fault

/-- A result that is kept, or a fault of the family of failed queries. -/
abbrev EndsInFamily (kept : α → Prop) : Except Fault α → Prop :=
  Ends kept fun fault => fault.inFamily = true

/-- A result, a fault of the family, or the steps being used up. -/
abbrev EndsExpectedly : Except Fault α → Prop :=
  Ends (fun _ => True) Fault.IsExpected

/-- What is kept and what is allowed may be said with less. -/
theorem Ends.imp {kept kept' : α → Prop} {allowed allowed' : Fault → Prop} {result : Except Fault α}
    (h : Ends kept allowed result) (hkept : ∀ a, kept a → kept' a)
    (hallowed : ∀ fault, allowed fault → allowed' fault) : Ends kept' allowed' result := by
  cases result with
  | ok a => exact hkept a h
  | error fault => exact hallowed fault h

/-! ## actions -/

theorem Yields.pure {a : α} (h : holds a) : Yields (Pure.pure a) holds :=
  fun _ _ => h

theorem Yields.mono {action : Play α} (h : Yields action holds)
    (himp : ∀ a, holds a → holds' a) : Yields action holds' :=
  fun browser history => himp _ (h browser history)

theorem Yields.trivial (action : Play α) : Yields action fun _ => True :=
  fun _ _ => True.intro

theorem Yields.bind {action : Play α} {next : α → Play β} {then' : β → Prop}
    (h : Yields action holds) (hnext : ∀ a, holds a → Yields (next a) then') :
    Yields (action >>= next) then' :=
  fun browser history => hnext _ (h browser history) _ _

/-! ## actions that a fault may end -/

section Faults

variable {kept : α → Prop} {allowed : Fault → Prop} {then' : Except Fault β → Prop}

theorem Yields.lift {action : Play α} (h : Yields action kept) :
    Yields (ExceptT.lift action : ExceptT Fault Play α).run (Ends kept allowed) :=
  fun browser history => h browser history

/-- A fault that is a result of its own ends nothing. -/
theorem Yields.lift_never {action : Play α} (h : Yields action kept) :
    Yields (ExceptT.lift action : ExceptT Fault Play α).run (Ends kept fun _ => False) :=
  h.lift

theorem Yields.lift_eq {action : Play α} {a : α} (h : Yields action (· = a)) :
    Yields (ExceptT.lift action : ExceptT Fault Play α).run (· = .ok a) :=
  fun browser history => congrArg Except.ok (h browser history)

/-- An action without a result does not fail. -/
theorem Yields.lift_unit {action : Play Unit} :
    Yields (ExceptT.lift action : ExceptT Fault Play Unit).run (· = .ok ()) :=
  Yields.lift_eq fun _ _ => rfl

/-- A bind goes on from a result that is kept; a fault ends it. -/
theorem Yields.bind_run {action : ExceptT Fault Play α} {next : α → ExceptT Fault Play β}
    (h : Yields action.run (Ends kept allowed)) (hnext : ∀ a, kept a → Yields (next a).run then')
    (hfault : ∀ fault, allowed fault → then' (.error fault)) :
    Yields (action >>= next).run then' := by
  rw [ExceptT.run_bind]
  refine h.bind fun result hresult => ?_
  cases result with
  | ok a => exact hnext a hresult
  | error fault => exact .pure (hfault fault hresult)

/-- A bind goes on from the one result that there is. -/
theorem Yields.bind_ok {action : ExceptT Fault Play α} {next : α → ExceptT Fault Play β} {a : α}
    (h : Yields action.run (· = .ok a)) (hnext : Yields (next a).run then') :
    Yields (action >>= next).run then' := by
  rw [ExceptT.run_bind]
  refine h.bind fun result hresult => ?_
  subst hresult
  exact hnext

/-- A bind is ended by the one fault that there is. -/
theorem Yields.bind_error {action : ExceptT Fault Play α} {next : α → ExceptT Fault Play β}
    {fault : Fault} (h : Yields action.run (· = .error fault)) (hfault : then' (.error fault)) :
    Yields (action >>= next).run then' := by
  rw [ExceptT.run_bind]
  refine h.bind fun result hresult => ?_
  subst hresult
  exact .pure hfault

/-- Actions in a row that do not fail. -/
theorem Yields.forM {action : α → Play Unit} (as : List α) :
    Yields (as.forM fun a => (ExceptT.lift (action a) : ExceptT Fault Play Unit)).run
      (· = .ok ()) := by
  rw [forM_lift]
  exact Yields.lift_unit

end Faults

end Scenario

end ServerBrowser
