import ServerBrowser.Browser
import ServerBrowser.CommandLine.Program
import ServerBrowser.Proofs.Address.HostAndPort
import ServerBrowser.Settings.Configuration

/-!
# ServerBrowser.Proofs.CommandLine.Default

The address that is asked where none is named: that of the settings, as one text.  Clients and the
command line take the text apart again, each by itself.

* `error_of_readArguments` — what the command line complains about: a switch among its arguments,
  the arguments as a whole, or the address that it falls back to;
* `addressIsUsable_iff` — the host and the port of the settings are found again wherever their
  address is used, exactly if the host is not empty;
* `not_addressIsUsable_emptyHost` — an empty host is accepted, all the same.
-/

namespace ServerBrowser

namespace CommandLine

/-! ## what is complained about -/

/-- Whether marked arguments have a switch among them. -/
def Names (s : Switch) (marks : List (String × Mark)) : Prop :=
  ∃ argument isShort attached, (argument, Mark.switch s isShort attached) ∈ marks

theorem Names.cons {s : Switch} {marks : List (String × Mark)} (first : String × Mark)
    (h : Names s marks) : Names s (first :: marks) := by
  obtain ⟨argument, isShort, attached, mem⟩ := h
  exact ⟨argument, isShort, attached, List.mem_cons_of_mem _ mem⟩

/-- The switch of a message stands in it: no two names have the same third letter. -/
theorem eq_of_about {s t : Switch} {message other : String}
    (h : about s message = about t other) : s = t := by
  have third : ∀ (s : Switch) (message : String),
      (about s message).toList[11]? = s.name.toList[2]? := by
    intro s message
    have parts : about s message = "argument " ++ s.name ++ ": " ++ message := rfl
    have long : 3 ≤ s.name.toList.length := by cases s <;> decide
    rw [parts, String.toList_append, String.toList_append, String.toList_append,
      List.append_assoc, List.append_assoc, List.getElem?_append_right (by decide),
      List.getElem?_append_left]
    · rfl
    · show 2 < s.name.toList.length
      omega
  have letters : s.name.toList[2]? = t.name.toList[2]? := by
    rw [← third s message, h, third]
  revert letters
  cases s <;> cases t <;> decide

/-- No other message starts like one about a switch. -/
theorem about_ne_append {s : Switch} {message start : String} (rest : String)
    (long : 2 ≤ start.toList.length) (h : start.toList.take 2 ≠ ['a', 'r']) :
    about s message ≠ start ++ rest := by
  intro same
  have parts : about s message = "argument " ++ (s.name ++ (": " ++ message)) := by
    rw [← String.append_assoc, ← String.append_assoc]
    rfl
  have front := congrArg (·.toList.take 2) (parts.symm.trans same)
  simp only [String.toList_append, List.take_append_of_le_length long] at front
  exact h front.symm

/-- What the command line may complain about, given its marked arguments. -/
inductive Complaint (defaultMaster : String) (marks : List (String × Mark)) (why : String) : Prop
  /-- A switch among the arguments. -/
  | switch (s : Switch) (message : String) (named : Names s marks) (same : why = about s message)
  /-- The address that is asked where none is named. -/
  | fallback (unread : readMaster defaultMaster = .error why)
  /-- Arguments that belong to no switch. -/
  | extras (arguments : List String)
      (same : why = "unrecognized arguments: " ++ " ".intercalate arguments)

theorem Complaint.cons {defaultMaster why : String} {marks : List (String × Mark)}
    (first : String × Mark) (h : Complaint defaultMaster marks why) :
    Complaint defaultMaster (first :: marks) why := by
  cases h with
  | switch s message named same => exact .switch s message (named.cons first) same
  | fallback unread => exact .fallback unread
  | extras arguments same => exact .extras arguments same

theorem Progress.error_of_take {p : Progress} {s : Switch} {value why : String}
    (h : p.take s value = .error why) : ∃ message, why = about s message := by
  cases s with
  | master =>
      cases read : MasterAddress.ofArgument value with
      | error fault =>
          simp only [take, readMaster, read, Except.mapError, bind, Except.bind] at h
          exact ⟨_, (Except.error.inj h).symm⟩
      | ok master =>
          simp only [take, readMaster, read, Except.mapError, bind, Except.bind] at h
          cases h
  | appId =>
      simp only [take] at h
      split at h
      · cases h
      · exact ⟨_, (Except.error.inj h).symm⟩
  | timeout =>
      simp only [take] at h
      split at h
      · cases h
      · exact ⟨_, (Except.error.inj h).symm⟩
  | filter | help | debug | version => cases h

theorem error_of_checkTail {s : Switch} {isShort afterEquals : Bool} {tail : List Char}
    {why : String} (h : checkTail s isShort afterEquals tail = .error why) :
    ∃ message, why = about s message := by
  fun_induction checkTail s isShort afterEquals tail <;> grind

theorem error_of_checkAttached {s : Switch} {isShort : Bool} {attached : Attached} {why : String}
    (h : checkAttached s isShort attached = .error why) : ∃ message, why = about s message := by
  cases attached with
  | none => cases h
  | equals value => exact error_of_checkTail h
  | tail value => exact error_of_checkTail h

/-- A step and what follows it fail as the step does, or the step is done and what follows fails. -/
theorem error_of_bind {α β : Type} {x : Except String α} {f : α → Except String β} {why : String}
    (h : (x >>= f) = .error why) : x = .error why ∨ ∃ a, x = .ok a ∧ f a = .error why := by
  cases x with
  | error other => exact .inl (congrArg _ (Except.error.inj h))
  | ok a => exact .inr ⟨a, rfl, h⟩

theorem Progress.error_of_finish {p : Progress} {defaultMaster why : String}
    {marks : List (String × Mark)} (h : p.finish defaultMaster = .error why) :
    Complaint defaultMaster marks why := by
  have extras : ∀ master : String × Int, (if p.extras.isEmpty then
      pure (.run ⟨master, p.appIds, p.filters, p.timeout, p.debug⟩)
      else .error ("unrecognized arguments: " ++ " ".intercalate p.extras) :
        Except String Request) = .error why → Complaint defaultMaster marks why := by
    intro master rest
    split at rest
    · cases rest
    · exact .extras p.extras (Except.error.inj rest).symm
  cases named : p.master with
  | some master =>
      simp only [finish, named] at h
      exact extras master h
  | none =>
      simp only [finish, named] at h
      rcases error_of_bind h with unread | ⟨master, -, rest⟩
      · exact .fallback unread
      · exact extras master rest

/-- Whatever the switches are, a complaint is about one of them, the fallback or the extras. -/
theorem complaint_of_carryOut {defaultMaster why : String} {marks : List (String × Mark)}
    {p : Progress} (h : carryOut defaultMaster p marks = .error why) :
    Complaint defaultMaster marks why := by
  have named : ∀ {argument : String} {s : Switch} {isShort : Bool} {attached : Attached}
      {rest : List (String × Mark)}, (∃ message, why = about s message) →
      Complaint defaultMaster ((argument, .switch s isShort attached) :: rest) why := by
    rintro argument s isShort attached rest ⟨message, same⟩
    exact .switch s message ⟨argument, isShort, attached, List.mem_cons_self⟩ same
  fun_induction carryOut defaultMaster p marks with
  | case1 p => exact Progress.error_of_finish h
  | case2 p argument s isShort takes value rest ih
  | case3 p argument s isShort takes value rest ih =>
      rcases error_of_bind h with refused | ⟨next, -, later⟩
      · exact named (Progress.error_of_take refused)
      · exact (ih next later).cons _
  | case4 p argument s isShort takes value rest ih =>
      rcases error_of_bind h with refused | ⟨next, -, later⟩
      · exact named (Progress.error_of_take refused)
      · exact ((ih next later).cons _).cons _
  | case5 => exact named ⟨_, (Except.error.inj h).symm⟩
  | case6 p argument s isShort attached rest takes ih =>
      rcases error_of_bind h with refused | ⟨_, -, later⟩
      · exact named (error_of_checkAttached refused)
      · cases s with
        | help | version => cases later
        | _ => exact (ih later).cons _
  | case7 p argument mark rest other ih => exact (ih h).cons _

/-- Marking fails where an argument is short for several switches, and only there. -/
theorem error_of_markAll {arguments : List String} {why : String}
    (h : markAll arguments = .error why) : ∃ rest, why = "ambiguous option: " ++ rest := by
  have other : ∀ argument : String, markOther argument = .error why →
      ∃ rest, why = "ambiguous option: " ++ rest := by
    intro argument failed
    simp only [markOther] at failed
    split at failed
    · cases failed
    · cases failed
    · obtain rfl := Except.error.inj failed
      let several := ", ".intercalate ((candidates argument.toList).map (·.1))
      refine ⟨argument ++ " could match " ++ several, ?_⟩
      show "ambiguous option: " ++ argument ++ " could match " ++ several = _
      simp only [String.append_assoc]
  have one : ∀ argument : String, mark argument = .error why →
      ∃ rest, why = "ambiguous option: " ++ rest := by
    intro argument failed
    simp only [mark] at failed
    split at failed
    · split at failed
      · cases failed
      · split at failed
        · exact other argument failed
        · split at failed
          · cases failed
          · exact other argument failed
    · cases failed
  fun_induction markAll arguments with
  | case1 => cases h
  | case2 => cases h
  | case3 argument rest separate ih =>
      rcases error_of_bind h with failed | ⟨first, -, later⟩
      · exact one argument failed
      · rcases error_of_bind later with failed | ⟨marks, -, done⟩
        · exact ih failed
        · cases done

/-- **What the command line complains about**: an argument that is short for several switches, a
switch among the arguments, the address that it falls back to, or arguments that belong to no
switch. -/
theorem error_of_readArguments {defaultMaster why : String} {arguments : List String}
    (h : readArguments defaultMaster arguments = .error why) :
    (∃ rest, why = "ambiguous option: " ++ rest) ∨
      ∃ marks, markAll arguments = .ok marks ∧ Complaint defaultMaster marks why := by
  rw [readArguments] at h
  rcases error_of_bind h with failed | ⟨marks, marked, later⟩
  · exact .inl (error_of_markAll failed)
  · exact .inr ⟨marks, marked, complaint_of_carryOut later⟩

/-! ## the address that is asked -/

/-- Whether no argument is a switch for the address. -/
def NamesNoMaster (arguments : List String) : Prop :=
  ∀ marks, markAll arguments = .ok marks → ¬ Names .master marks

theorem Progress.master_of_takes {p next : Progress} {s : Switch} {value : String}
    (other : s ≠ .master) (h : p.Takes value s next) : next.master = p.master := by
  cases h with
  | master => exact absurd rfl other
  | _ => rfl

/-- A switch that is given a value is among the arguments. -/
theorem names_of_mem_given {marks : List (String × Mark)} {s : Switch} {value : String}
    (h : (s, value) ∈ given marks) : Names s marks := by
  have here : ∀ {argument : String} {t : Switch} {isShort : Bool} {attached : Attached}
      {other : String} {taken : List (Switch × String)} {rest : List (String × Mark)},
      (s, value) ∈ give t other taken → ((s, value) ∈ taken → Names s rest) →
      Names s ((argument, .switch t isShort attached) :: rest) := by
    intro argument t isShort attached other taken rest mem later
    rw [give] at mem
    split at mem
    · rcases List.mem_cons.1 mem with same | mem
      · cases same
        exact ⟨argument, _, _, List.mem_cons_self⟩
      · exact (later mem).cons _
    · exact (later mem).cons _
  fun_induction given marks with
  | case1 => cases h
  | case2 argument t isShort other rest ih
  | case3 argument t isShort other rest ih => exact here h ih
  | case4 argument t isShort other rest ih => exact here h fun mem => (ih mem).cons _
  | case5 first rest _ _ _ ih => exact (ih h).cons _

/-- Where no switch names an address, the one that is fallen back to is asked. -/
theorem master_of_carryOut {defaultMaster : String} {master : String × Int} {options : Options}
    {marks : List (String × Mark)} {p : Progress} (fallback : readMaster defaultMaster = .ok master)
    (unnamed : ¬ Names .master marks) (none : p.master = none)
    (h : carryOut defaultMaster p marks = .ok (.run options)) : options.master = master := by
  have taken : ∀ {before : List (Switch × String)} {s : Switch} {value : String}
      {p next : Progress}, ((∀ value, (Switch.master, value) ∉ before) → p.master = .none) →
      p.Takes value s next →
      (∀ value', (Switch.master, value') ∉ before ++ [(s, value)]) → next.master = .none := by
    intro before s value p next kept took unnamed
    have other : s ≠ .master := by
      rintro rfl
      exact unnamed value (by simp)
    exact (Progress.master_of_takes other took).trans
      (kept fun value' mem => unnamed value' (List.mem_append_left _ mem))
  obtain ⟨last, kept, finished⟩ := finish_of_carryOut
    (fun before p => (∀ value, (Switch.master, value) ∉ before) → p.master = .none) taken
    (fun kept => kept) (fun _ kept => kept) [] (fun _ => none) h
  obtain ⟨found, rfl, named | ⟨-, same⟩⟩ := Progress.eq_of_finish finished
  · rw [kept fun value mem => unnamed (names_of_mem_given mem)] at named
    cases named
  · exact Except.ok.inj (same.symm.trans fallback)

end CommandLine

namespace Settings

open CommandLine

/-! ## the address of the settings -/

/-- Whether the address of settings leads back to their host and port wherever it is used: by
whoever takes it apart, by a client that is given no address, and by the command line, which never
finds fault with it. -/
structure AddressIsUsable (settings : Settings) : Prop where
  parts : MasterAddress.splitText settings.address = .ok (settings.host, settings.port)
  client : (Client.ofSettings settings none).master.split = .ok (settings.host, settings.port)
  options : ∀ arguments options, NamesNoMaster arguments →
    readArguments settings.address arguments = .ok (.run options) →
      (options.client settings).master.split = .ok (settings.host, settings.port)
  accepted : ∀ arguments message, NamesNoMaster arguments →
    readArguments settings.address arguments ≠ .error (about .master message)

theorem isPort_port (settings : Settings) : IsPort settings.port := by
  have := settings.port_pos
  have := settings.port_lt
  rw [IsPort]
  omega

/-- The host and the port of settings are found again in their address, where there is a host. -/
theorem splitText_address_iff {settings : Settings} :
    MasterAddress.splitText settings.address = .ok (settings.host, (settings.port : Int)) ↔
      settings.host ≠ "" := by
  have display : settings.address =
      (MasterAddress.pair settings.host settings.port).display := rfl
  have five : (Nat.toDigits 10 settings.port).length ≤ 5 := by
    have := settings.port_lt
    exact (Nat.length_toDigits_le_iff (by decide) (by decide)).2 (by omega)
  have short : (Nat.toDigits 10 (settings.port : Int).natAbs).length ≤ Text.digitLimit :=
    Nat.le_trans five (by decide)
  rw [display, MasterAddress.splitText_display_iff]
  exact and_iff_left short

/-- **The address of settings is usable exactly if it has a host.** -/
theorem addressIsUsable_iff {settings : Settings} :
    settings.AddressIsUsable ↔ settings.host ≠ "" := by
  constructor
  · exact fun usable => splitText_address_iff.1 usable.parts
  · intro solid
    have parts := splitText_address_iff.2 solid
    have argument := MasterAddress.ofArgument_eq_ok_iff.2 ⟨parts, settings.isPort_port⟩
    have fallback : readMaster settings.address = .ok (settings.host, (settings.port : Int)) := by
      rw [readMaster, argument, Except.mapError]
    refine ⟨parts, parts, fun arguments options unnamed read => ?_,
      fun arguments message unnamed read => ?_⟩
    · rw [readArguments] at read
      obtain ⟨marks, marked, carried⟩ := ok_of_bind read
      have master := master_of_carryOut fallback (unnamed marks marked) rfl carried
      rw [Options.client, MasterAddress.split, master]
    · rcases error_of_readArguments read with ⟨rest, same⟩ | ⟨marks, marked, complaint⟩
      · exact about_ne_append rest (by decide) (by decide) same
      · cases complaint with
        | switch s other named same =>
            obtain rfl := eq_of_about same
            exact unnamed marks marked named
        | fallback unread => rw [fallback] at unread; cases unread
        | extras arguments same => exact about_ne_append _ (by decide) (by decide) same

/-- An empty host is accepted, and the command line finds fault with an address that nobody named. -/
theorem not_addressIsUsable_emptyHost :
    ofMembers [("host", .str "")] = .ok { host := "" } ∧
      NamesNoMaster [] ∧
      readArguments ({ host := "" } : Settings).address [] =
        .error (about .master "expected host:port, got ':27011'") ∧
      ¬ ({ host := "" } : Settings).AddressIsUsable := by
  refine ⟨by decide +kernel, ?_, by decide +kernel, fun usable => addressIsUsable_iff.1 usable rfl⟩
  rintro marks ⟨⟩ ⟨argument, isShort, attached, mem⟩
  cases mem

end Settings

end ServerBrowser
