import Mathlib.Data.List.Forall2
import ServerBrowser.CommandLine.Options

/-!
# ServerBrowser.Proofs.CommandLine.Options

What the options of the command line are, whatever the arguments.  The marked arguments give values
to switches (`given`), and to carry the switches out is to take these values one after the other:
what each value that is taken keeps holds of the options (`finish_of_carryOut`).

* `isPort_of_readArguments` — an address comes from a switch or from the configuration, and either
  way its port is one that a server can have;
* `areGiven_of_readArguments` — the app ids and the filters are those of the arguments, in order.
-/

namespace ServerBrowser

/-- Whether a number is a port that a server can have. -/
def IsPort (port : Int) : Prop :=
  0 < port ∧ port < 65536

/-- An address argument has a port. -/
theorem MasterAddress.isPort_of_ofArgument {address : String} {master : String × Int}
    (h : ofArgument address = .ok master) : IsPort master.2 := by
  rw [ofArgument] at h
  split at h
  · cases h
  · split at h
    · next hport => cases h; exact hport
    · cases h

namespace CommandLine

variable {defaultMaster : String} {options : Options}

/-! ## values of switches -/

/-- A value that is given to a switch, where it takes one. -/
def give (s : Switch) (value : String) (taken : List (Switch × String)) : List (Switch × String) :=
  if s.takesValue then (s, value) :: taken else taken

/-- The values that marked arguments give, each with its switch: what is attached to the switch, or
the plain argument after it. -/
def given : List (String × Mark) → List (Switch × String)
  | [] => []
  | (_, .switch s _ (.equals value)) :: rest | (_, .switch s _ (.tail value)) :: rest
  | (_, .switch s _ .none) :: (value, .plain) :: rest => give s value (given rest)
  | _ :: rest => given rest

/-- The values of one switch, in order. -/
def valuesOf (s : Switch) (taken : List (Switch × String)) : List String :=
  taken.filterMap fun (other, value) => if other = s then some value else none

theorem give_of_takesValue {s : Switch} (h : s.takesValue = true) (value : String)
    (taken : List (Switch × String)) : give s value taken = (s, value) :: taken :=
  if_pos h

/-- A switch that takes no value leaves what comes after it to the others. -/
theorem given_of_not_takesValue {s : Switch} (h : ¬ s.takesValue = true) (argument : String)
    (isShort : Bool) (attached : Attached) (rest : List (String × Mark)) :
    given ((argument, .switch s isShort attached) :: rest) = given rest := by
  have hgive (value : String) (taken : List (Switch × String)) : give s value taken = taken :=
    if_neg h
  cases attached with
  | equals value | tail value => rw [given, hgive]
  | none =>
      cases rest with
      | nil => rfl
      | cons next rest =>
          obtain ⟨value, mark⟩ := next
          cases mark with
          | plain => rw [given, hgive]; rfl
          | _ => rfl

theorem ok_of_bind {α β : Type} {x : Except String α} {f : α → Except String β} {b : β}
    (h : (x >>= f) = .ok b) : ∃ a, x = .ok a ∧ f a = .ok b := by
  cases x with
  | error why => cases h
  | ok a => exact ⟨a, rfl, h⟩

/-- What taking a value makes of what was read so far. -/
inductive Progress.Takes (p : Progress) (value : String) : Switch → Progress → Prop
  | master {master : String × Int} (read : readMaster value = .ok master) :
    Takes p value .master { p with master := some master }
  | appId {id : Int} (read : Text.readInt value = .ok id) :
    Takes p value .appId { p with appIds := p.appIds ++ [id] }
  | timeout {seconds : Binary64} (read : Binary64.readNumber? value = some seconds) :
    Takes p value .timeout { p with timeout := some seconds }
  | filter : Takes p value .filter { p with filters := p.filters ++ [value] }
  | nothing {s : Switch} (h : s.takesValue = false) : Takes p value s p

theorem Progress.takes_of_take {p next : Progress} {s : Switch} {value : String}
    (h : p.take s value = .ok next) : p.Takes value s next := by
  cases s with
  | master =>
      obtain ⟨master, hmaster, h⟩ := ok_of_bind h
      cases h
      exact .master hmaster
  | appId =>
      simp only [take] at h
      split at h
      · next id hid => cases h; exact .appId hid
      · cases h
  | timeout =>
      simp only [take] at h
      split at h
      · next seconds hseconds => cases h; exact .timeout hseconds
      · cases h
  | filter => cases h; exact .filter
  | help | debug | version => cases h; exact .nothing rfl

/-- What is asked for in the end is what was taken.  The address is the one that was named, or the
one that is fallen back to. -/
theorem Progress.eq_of_finish {p : Progress} (h : p.finish defaultMaster = .ok (.run options)) :
    ∃ master, options = ⟨master, p.appIds, p.filters, p.timeout, p.debug⟩ ∧
      (p.master = some master ∨ p.master = none ∧ readMaster defaultMaster = .ok master) := by
  have hoptions : ∀ master : String × Int, (if p.extras.isEmpty then
      pure (.run ⟨master, p.appIds, p.filters, p.timeout, p.debug⟩)
      else .error ("unrecognized arguments: " ++ " ".intercalate p.extras) :
        Except String Request) = .ok (.run options) →
      options = ⟨master, p.appIds, p.filters, p.timeout, p.debug⟩ := by
    intro master h
    split at h
    · cases h; rfl
    · cases h
  cases hmaster : p.master with
  | some master =>
      simp only [finish, hmaster] at h
      exact ⟨master, hoptions master h, .inl rfl⟩
  | none =>
      simp only [finish, hmaster] at h
      obtain ⟨master, hfallback, h⟩ := ok_of_bind h
      exact ⟨master, hoptions master h, .inr ⟨rfl, hfallback⟩⟩

/-- **Carrying out the switches takes their values, one after the other.**  What holds at the start
and is kept by every value that is taken, and does not depend on the rest, holds in the end. -/
theorem finish_of_carryOut (kept : List (Switch × String) → Progress → Prop)
    (take : ∀ {before s value} {p next : Progress}, kept before p → p.Takes value s next →
      kept (before ++ [(s, value)]) next)
    (debug : ∀ {before} {p : Progress}, kept before p → kept before { p with debug := true })
    (extra : ∀ {before} {p : Progress} argument, kept before p →
      kept before { p with extras := p.extras ++ [argument] })
    {marks : List (String × Mark)} (before : List (Switch × String)) {p : Progress}
    (hp : kept before p) (h : carryOut defaultMaster p marks = .ok (.run options)) :
    ∃ last, kept (before ++ given marks) last ∧ last.finish defaultMaster = .ok (.run options) := by
  fun_induction carryOut defaultMaster p marks generalizing before with
  | case1 p => exact ⟨p, by simpa [given] using hp, h⟩
  | case2 p argument s isShort takes value rest ih
  | case3 p argument s isShort takes value rest ih
  | case4 p argument s isShort takes value rest ih =>
      obtain ⟨next, htaken, h⟩ := ok_of_bind h
      obtain ⟨last, hlast, hfinish⟩ := ih next _ (take hp (Progress.takes_of_take htaken)) h
      exact ⟨last, by simpa [given, give_of_takesValue takes] using hlast, hfinish⟩
  | case5 => cases h
  | case6 p argument s isShort attached rest takes ih =>
      obtain ⟨-, -, h⟩ := ok_of_bind h
      rw [given_of_not_takesValue takes]
      cases s with
      | help | version => cases h
      | _ => exact ih before (debug hp) h
  | case7 p argument mark rest other ih =>
      obtain ⟨last, hlast, hfinish⟩ := ih before (extra argument hp) h
      refine ⟨last, ?_, hfinish⟩
      cases mark with
      | switch s isShort attached => exact absurd rfl (other s isShort attached)
      | _ => simpa [given] using hlast

/-! ## the port of the address -/

theorem isPort_of_readMaster {value : String} {master : String × Int}
    (h : readMaster value = .ok master) : IsPort master.2 := by
  rw [readMaster] at h
  cases hargument : MasterAddress.ofArgument value with
  | error fault =>
      rw [hargument] at h
      cases h
  | ok found =>
      rw [hargument] at h
      cases h
      exact MasterAddress.isPort_of_ofArgument hargument

/-- Whether an address that was read has a port. -/
def Progress.HasPort (p : Progress) : Prop :=
  ∀ master, p.master = some master → IsPort master.2

theorem Progress.HasPort.take {p next : Progress} {s : Switch} {value : String} (hp : p.HasPort)
    (h : p.Takes value s next) : next.HasPort := by
  cases h with
  | master read =>
      rintro _ ⟨⟩
      exact isPort_of_readMaster read
  | _ => exact hp

/-- **The address of the options has a port that a server can have.** -/
theorem isPort_of_readArguments {arguments : List String}
    (h : readArguments defaultMaster arguments = .ok (.run options)) :
    IsPort options.master.2 := by
  rw [readArguments] at h
  obtain ⟨marks, -, h⟩ := ok_of_bind h
  obtain ⟨last, hlast, hfinish⟩ := finish_of_carryOut (fun _ p => p.HasPort)
    (fun hp htaken => hp.take htaken) (fun hp => hp) (fun _ hp => hp) []
    (by simp [Progress.HasPort]) h
  obtain ⟨master, rfl, hmaster | ⟨-, hfallback⟩⟩ := Progress.eq_of_finish hfinish
  · exact hlast master hmaster
  · exact isPort_of_readMaster hfallback

/-! ## app ids and filters -/

/-- Whether app ids and filters are those of the values that were taken, in order. -/
structure AreGiven (taken : List (Switch × String)) (appIds : List Int) (filters : List String) :
    Prop where
  appIds : List.Forall₂ (fun value id => Text.readInt value = .ok id) (valuesOf .appId taken) appIds
  filters : filters = valuesOf .filter taken

theorem valuesOf_concat_self (s : Switch) (taken : List (Switch × String)) (value : String) :
    valuesOf s (taken ++ [(s, value)]) = valuesOf s taken ++ [value] := by
  simp [valuesOf]

theorem valuesOf_concat_of_ne {s other : Switch} (h : other ≠ s) (taken : List (Switch × String))
    (value : String) : valuesOf s (taken ++ [(other, value)]) = valuesOf s taken := by
  simp [valuesOf, h]

/-- Values of other switches are neither app ids nor filters. -/
theorem AreGiven.other {taken : List (Switch × String)} {appIds : List Int} {filters : List String}
    (h : AreGiven taken appIds filters) {s : Switch} (happId : s ≠ .appId) (hfilter : s ≠ .filter)
    (value : String) : AreGiven (taken ++ [(s, value)]) appIds filters where
  appIds := by
    rw [valuesOf_concat_of_ne happId]
    exact h.appIds
  filters := by
    rw [valuesOf_concat_of_ne hfilter]
    exact h.filters

theorem AreGiven.take {taken : List (Switch × String)} {p next : Progress} {s : Switch}
    {value : String} (hp : AreGiven taken p.appIds p.filters) (h : p.Takes value s next) :
    AreGiven (taken ++ [(s, value)]) next.appIds next.filters := by
  cases h with
  | appId read =>
      refine ⟨?_, ?_⟩
      · rw [valuesOf_concat_self]
        exact List.rel_append hp.appIds (.cons read .nil)
      · rw [valuesOf_concat_of_ne (by decide)]
        exact hp.filters
  | filter =>
      refine ⟨?_, ?_⟩
      · rw [valuesOf_concat_of_ne (by decide)]
        exact hp.appIds
      · rw [valuesOf_concat_self, hp.filters]
  | master | timeout => exact hp.other (by decide) (by decide) value
  | nothing h =>
      have happId : s ≠ .appId := by rintro rfl; cases h
      have hfilter : s ≠ .filter := by rintro rfl; cases h
      exact hp.other happId hfilter value

/-- **The app ids and the filters of the options are those of the arguments,** each of them in
order. -/
theorem areGiven_of_readArguments {arguments : List String}
    (h : readArguments defaultMaster arguments = .ok (.run options)) :
    ∃ marks, markAll arguments = .ok marks ∧
      AreGiven (given marks) options.appIds options.filters := by
  rw [readArguments] at h
  obtain ⟨marks, hmarks, h⟩ := ok_of_bind h
  obtain ⟨last, hlast, hfinish⟩ := finish_of_carryOut
    (fun taken p => AreGiven taken p.appIds p.filters) (fun hp htaken => hp.take htaken)
    (fun hp => hp) (fun _ hp => hp) [] ⟨.nil, rfl⟩ h
  obtain ⟨master, rfl, -⟩ := Progress.eq_of_finish hfinish
  exact ⟨marks, hmarks, hlast⟩

example : (markAll ["--appid", "440", "--filter=\\gamedir\\tf", "--app", "730"]).map given =
    .ok [(.appId, "440"), (.filter, "\\gamedir\\tf"), (.appId, "730")] := by decide +kernel

end CommandLine

end ServerBrowser
