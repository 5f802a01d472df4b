import ServerBrowser.Proofs.Browser.Refusals
import ServerBrowser.Proofs.CommandLine.Help
import ServerBrowser.Proofs.CommandLine.Options
import ServerBrowser.Proofs.CommandLine.Running
import ServerBrowser.Proofs.Settings

/-!
# ServerBrowser.Proofs.CommandLine.Ending

How the program ends, over datagram sockets of an operating system that looks up hosts and keeps
delays, for every configuration that is accepted and whatever the arguments are.  It ends with an
exit code, and gives its sockets times above zero only, exactly where

* the help text, if it is asked for, can be formatted;
* the time to wait, if a socket is made, is one that sockets accept, and above zero where it is
  given as an option: an option takes the place of the configured time and is not checked;
* the host, if a socket is made, is one that can be looked up;
* the delay, if it comes to one, is one that the clock keeps;
* every filter has bytes, if the listings before the first one that has none all end well.

That is `run_endsOrderly_iff`.  The configured time need not be compared with zero
(`load_accepted`), and the port needs no condition (`isPort_of_readArguments`).
-/

namespace ServerBrowser

open Scenario

namespace CommandLine

variable {scenario : Scenario} {encodes : String → Bool} {surrogate? : Char → Option UInt16}
  {configuration : Configuration} {options : Options} {history history' : History}

/-! ## how the program ends -/

/-- Whether the program ends with one of its exit codes, unless its steps are used up. -/
def EndsOrderly : Except Fault Nat → Prop
  | .ok code => code ≤ 2
  | .error fault => fault = .exhausted

/-- Whether all time limits that are set are above zero. -/
def KeepsPositive (since : History) : Prop :=
  ∀ socket seconds, .limited socket seconds ∈ since → seconds.isPositive = true

/-- Whether sockets accept the time to wait, and a time that is an option is above zero. -/
structure Options.FitsSockets (options : Options) (settings : Settings) : Prop where
  accepted : Transport.limitFault? (options.settings settings).timeout = none
  positive : ∀ seconds, options.timeout = some seconds → seconds.isPositive = true

/-- How the listings end of the batches that can be cut from the filters of the options. -/
def Options.listed (options : Options) (console : Console Play (DatagramSocket Nat))
    (settings : Settings) (limit : Nat) (history : History) : Except Fault Int :=
  (Browser.listBatches (options.client settings) console.world (printer console) limit 1 0
    (options.batches console.surrogate? settings).1
    { filters := options.filterTokens, querying := true } history).1.1

/-- What it takes for a run for options to end orderly.  Sockets that are made have to accept the
time to wait and the host, and the clock has to keep the delay if it comes to one; and unless a
listing ends the run before, the filters need to have bytes. -/
structure Options.RunsWell (options : Options) (scenario : Scenario) (encodes : String → Bool)
    (surrogate? : Char → Option UInt16) (configuration : Configuration) (limit : Nat)
    (past since : History) : Prop where
  fits : scenario.Makes past since → options.FitsSockets configuration.master
  host : scenario.Makes past since → Transport.hostFault? encodes options.master.1 = none
  delay : (∃ seconds, .slept seconds ∈ since) →
    Clock.system.sleepFault? configuration.master.retryDelay = none
  filters : ∀ level total, Log.level configuration.level = .ok level →
    options.listed ((scenario.encoding encodes).console .system surrogate?) configuration.master
        limit (past ++ [logSetUp options level]) = .ok total →
      ∀ token ∈ options.filterTokens, filterFault? surrogate? token = none

/-- What it takes for a request to end orderly: a help text that can be formatted, or a run for
options that goes well. -/
def Request.EndsWell (scenario : Scenario) (encodes : String → Bool)
    (surrogate? : Char → Option UInt16) (configuration : Configuration) (limit : Nat)
    (past since : History) : Request → Prop
  | .version => True
  | .help => ∃ text, helpText configuration.master.address = .ok text
  | .run options => options.RunsWell scenario encodes surrogate? configuration limit past since

/-- The help ends well for a host without percent signs. -/
theorem Request.endsWell_help {limit : Nat} (h : '%' ∉ configuration.master.host.toList) :
    Request.help.EndsWell scenario encodes surrogate? configuration limit history history' :=
  helpText_of_not_mem (Settings.not_mem_address h)

theorem endsOrderly_exitCode {result : Except Fault Int} :
    EndsOrderly (exitCode result) ↔ EndsExpectedly result := by
  cases result with
  | ok total => exact iff_of_true (by simp [exitCode, EndsOrderly]) trivial
  | error fault =>
      cases hfamily : fault.inFamily with
      | true => exact iff_of_true (by simp [exitCode, hfamily, EndsOrderly]) (.inl hfamily)
      | false => simp [exitCode, hfamily, EndsOrderly, Ends, Fault.IsExpected]

/-- A configured time is above zero, so only one that is an option need be looked at. -/
theorem Options.fitsSockets_iff {settings : Settings} (h : settings.IsPaced) :
    options.FitsSockets settings ↔
      Transport.limitFault? (options.settings settings).timeout = none ∧
        (options.settings settings).timeout.isPositive = true := by
  cases htimeout : options.timeout with
  | none =>
      have hsettings : options.settings settings = settings := by rw [Options.settings, htimeout]
      rw [hsettings]
      refine ⟨fun hfits => ⟨hsettings ▸ hfits.accepted, h.1⟩, fun hfits => ⟨?_, ?_⟩⟩
      · rw [hsettings]; exact hfits.1
      · simp [htimeout]
  | some seconds =>
      have hsettings : (options.settings settings).timeout = seconds := by
        rw [Options.settings, htimeout]
        rfl
      refine ⟨fun hfits => ⟨hfits.accepted, hsettings ▸ hfits.positive seconds htimeout⟩,
        fun hfits => ⟨hfits.1, ?_⟩⟩
      rw [htimeout]
      rintro _ ⟨⟩
      exact hsettings ▸ hfits.2

/-- An option for the time to wait leaves the delay as it is configured. -/
theorem Options.retryDelay_settings (options : Options) (settings : Settings) :
    (options.settings settings).retryDelay = settings.retryDelay := by
  rw [Options.settings]
  cases options.timeout <;> rfl

/-- Time limits that are all the same are above zero if that time is, or if there are none. -/
theorem keepsPositive_iff {client : Client} {past since : History}
    (h : scenario.Demands client past since) :
    KeepsPositive since ↔
      (scenario.Makes past since → client.settings.timeout.isPositive = true) := by
  constructor
  · intro hkeeps hmakes
    obtain ⟨socket, hlimited⟩ := h.makes_iff.1 hmakes
    exact hkeeps socket _ hlimited
  · intro hpositive socket seconds hlimited
    obtain rfl := h.limited socket seconds hlimited
    exact hpositive (h.makes_iff.2 ⟨socket, hlimited⟩)

theorem undemanding_verdict (result : Except Fault Int) : (verdict result).Undemanding := by
  cases result with
  | ok total => simp [verdict, History.Undemanding, Event.isDemand]
  | error fault =>
      rw [verdict]
      split <;> simp [History.Undemanding, Event.isDemand]

theorem undemanding_ending (result : Except Fault Int) : (Browser.ending result).Undemanding := by
  cases result <;> simp [Browser.ending, History.Undemanding, Event.isDemand]

theorem undemanding_printer (scenario : Scenario) (surrogate? : Char → Option UInt16)
    (page : List ServerAddress) :
    Discipline.undemanding.Follows (printer (scenario.console .system surrogate?) page) :=
  Discipline.undemanding.bind (undemanding_note rfl) fun _ => Discipline.undemanding.pure _

/-- The refusal to cut a filter leaves the family. -/
theorem not_isExpected_of_batches {settings : Settings} {fault : Fault}
    (h : (options.batches surrogate? settings).2 = some fault) : ¬ fault.IsExpected := by
  rw [Options.batches, Filter.batchesUpTo_refusal, List.findSome?_eq_some_iff] at h
  obtain ⟨-, token, -, -, hfault, -⟩ := h
  obtain ⟨run, -, rfl⟩ := Option.map_eq_some_iff.1 hfault
  simp [Fault.IsExpected]
  rfl

/-- A query that could not cut all filters ends in the family where its listings do, unless these
all end well. -/
theorem endsExpectedly_concluded {settings : Settings} {result : Except Fault Int} :
    EndsExpectedly (Browser.concluded (options.batches surrogate? settings).2 result) ↔
      EndsExpectedly result ∧ (∀ total, result = .ok total →
        ∀ token ∈ options.filterTokens, filterFault? surrogate? token = none) := by
  have hnone : (options.batches surrogate? settings).2 = none ↔
      ∀ token ∈ options.filterTokens, filterFault? surrogate? token = none := by
    rw [Options.batches, Filter.batchesUpTo_refusal, List.findSome?_eq_none_iff]
  cases result with
  | error fault => simp [Browser.concluded]
  | ok total =>
      cases hrefusal : (options.batches surrogate? settings).2 with
      | none => simpa [Browser.concluded, Ends] using hnone.1 hrefusal
      | some fault =>
          refine iff_of_false (not_isExpected_of_batches hrefusal) fun hends => ?_
          cases hrefusal.symm.trans (hnone.2 (hends.2 total rfl))

/-- A run that demands what its client demands goes well where all of that is granted, its time
limits are above zero, and the filters have bytes if the listings before all end well. -/
theorem Options.runsWell_iff {level : Int} {limit : Nat} {since : History}
    (hpaced : configuration.master.IsPaced) (hlevel : Log.level configuration.level = .ok level)
    (hport : IsPort options.master.2)
    (h : scenario.Demands (options.client configuration.master) history since) :
    options.RunsWell scenario encodes surrogate? configuration limit history since ↔
      (since.Granted encodes ∧ KeepsPositive since) ∧
        ∀ total, options.listed ((scenario.encoding encodes).console .system surrogate?)
            configuration.master limit (history ++ [logSetUp options level]) = .ok total →
          ∀ token ∈ options.filterTokens, filterFault? surrogate? token = none := by
  have hsplit : (options.client configuration.master).master.split = .ok options.master := rfl
  have haccepted : Transport.portFault? options.master.2 = none :=
    if_pos ⟨Int.le_of_lt hport.1, hport.2⟩
  rw [h.granted_iff, keepsPositive_iff h]
  constructor
  · intro hruns
    refine ⟨⟨⟨fun hmakes => ?_, fun hslept => ?_⟩, fun hmakes => ?_⟩, fun total hlisted => ?_⟩
    · refine ⟨((Options.fitsSockets_iff hpaced).1 (hruns.fits hmakes)).1, ?_⟩
      rintro host port ⟨⟩
      exact ⟨haccepted, hruns.host hmakes⟩
    · exact (options.retryDelay_settings configuration.master).symm ▸ hruns.delay hslept
    · exact ((Options.fitsSockets_iff hpaced).1 (hruns.fits hmakes)).2
    · exact hruns.filters level total hlevel hlisted
  · rintro ⟨⟨⟨hmakes, hslept⟩, hpositive⟩, hfilters⟩
    refine ⟨fun hmade => ?_, fun hmade => ?_, fun hsleeps => ?_, fun level' total hlevel' => ?_⟩
    · exact (Options.fitsSockets_iff hpaced).2 ⟨(hmakes hmade).1, hpositive hmade⟩
    · exact ((hmakes hmade).2 _ _ hsplit).2
    · exact options.retryDelay_settings _ ▸ hslept hsleeps
    · cases hlevel.symm.trans hlevel'
      exact hfilters total

/-- **A run for options ends orderly exactly where it goes well.** -/
theorem runQuery_endsOrderly_iff (hsystem : scenario.OfSystem) (encodes : String → Bool)
    (surrogate? : Char → Option UInt16) (hpaced : configuration.master.IsPaced) {level : Int}
    (hlevel : Log.level configuration.level = .ok level) (hport : IsPort options.master.2)
    (limit : Nat) (browser : Browser) (history : History) :
    ∃ result browser' since,
      (runQuery ((scenario.encoding encodes).console .system surrogate?) configuration options
          limit : Play _) browser history = ((exitCode result, browser'), history ++ since) ∧
      (EndsOrderly (exitCode result) ∧ KeepsPositive since ↔
        options.RunsWell scenario encodes surrogate? configuration limit history since) := by
  obtain ⟨listed, browser', more, hlist, hdemands, hgranted⟩ :=
    Browser.listBatches_isExpected_iff_granted hsystem (fun _ _ _ => rfl)
      (undemanding_printer (scenario.encoding encodes) surrogate?) encodes
      (options.client configuration.master) limit
      (options.batches surrogate? configuration.master).1
      { filters := options.filterTokens, querying := true } (history ++ [logSetUp options level])
  let result := Browser.concluded (options.batches surrogate? configuration.master).2 listed
  have hquery : (Browser.queryBatches (options.client configuration.master)
      ((scenario.encoding encodes).console .system surrogate?).world
      (printer ((scenario.encoding encodes).console .system surrogate?)) limit
      (options.batches surrogate? configuration.master).1
      (options.batches surrogate? configuration.master).2 : Play _)
      { filters := options.filterTokens } (history ++ [logSetUp options level]) =
        ((result, { browser' with querying := false }),
          history ++ [logSetUp options level] ++ more ++ Browser.ending result) :=
    Browser.queryBatches_play _ hlist
  -- What is said around the listings demands nothing.
  let since : History := [logSetUp options level] ++ more ++ (Browser.ending result ++ verdict result)
  have hsetUp : History.Undemanding [logSetUp options level] := by
    simp [History.Undemanding, logSetUp, Event.isDemand]
  have hsaid : (Browser.ending result ++ verdict result).Undemanding := fun event hmem =>
    (List.mem_append.1 hmem).elim (undemanding_ending _ event) (undemanding_verdict _ event)
  have hall : scenario.Demands (options.client configuration.master) history since :=
    ((Demands.of_undemanding hsetUp).append hdemands).append (.of_undemanding hsaid)
  have hsame : since.Granted encodes ↔ more.Granted encodes := by
    rw [History.granted_append, History.granted_append, and_iff_right hsetUp.granted,
      and_iff_left hsaid.granted]
  have hlisted : options.listed ((scenario.encoding encodes).console .system surrogate?)
      configuration.master limit (history ++ [logSetUp options level]) = listed :=
    congrArg (·.1.1) hlist
  refine ⟨result, { browser' with querying := false }, since, ?_, ?_⟩
  · rw [runQuery_play hlevel hquery]
    simp only [since, List.append_assoc]
  · rw [endsOrderly_exitCode, endsExpectedly_concluded, hgranted, ← hsame,
      Options.runsWell_iff hpaced hlevel hport hall, hlisted, and_right_comm]

/-- Wrong arguments alone give the exit code 2. -/
theorem exitCode_ne_two (result : Except Fault Int) : exitCode result ≠ .ok 2 := by
  cases result with
  | ok total => simp [exitCode]
  | error fault =>
      rw [exitCode]
      split <;> simp

/-- What the program does over a system in which nothing fails, with the configuration where nothing
is given and a time below zero. -/
def limitNegativePlay : (Except Fault Nat × Browser) × History :=
  (run (((Browser.answering Response.header).encoding fun _ => false).console .system) {}
    ["--timeout", "-1"] 10 : Play _) {} []

end CommandLine

end ServerBrowser
