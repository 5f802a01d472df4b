import ServerBrowser.CommandLine.Program
import ServerBrowser.Proofs.Browser.Batches
import ServerBrowser.Proofs.Filter.Batch

/-!
# ServerBrowser.Proofs.CommandLine.Running

How a run for options goes over the console of a scenario: the log is set up, the batches of the
filters are queried, and the exit code says how that ended (`runQuery_play`).
-/

namespace ServerBrowser

open Scenario

/-- The console of a scenario: what is written and set up is noted. -/
def Scenario.console (scenario : Scenario) (clock : Clock := .patient)
    (surrogate? : Char → Option UInt16 := fun _ => none) :
    CommandLine.Console Play (DatagramSocket Nat) where
  world := scenario.surroundings scenario.datagram false clock
  print text := note (.printed text)
  report text := note (.reported text)
  setUpLog level debugged := note (.logSetUp level debugged)
  surrogate? := surrogate?

namespace CommandLine

/-- The exit code of a query; faults outside the family give none. -/
def exitCode : Except Fault Int → Except Fault Nat
  | .ok _ => .ok 0
  | .error fault => if fault.inFamily then .ok 1 else .error fault

/-- What the program says when its query is over. -/
def verdict : Except Fault Int → History
  | .ok total => [.reported s!"{total} server(s)\n"]
  | .error fault =>
    if fault.inFamily then
      [.logged ⟨Log.programLogger, Log.error, "Master query failed: " ++ fault.message⟩]
    else []

/-- What the log is set up with for the options. -/
def logSetUp (options : Options) (level : Int) : Event :=
  .logSetUp level (if options.debug then Log.componentLoggers else [])

/-- The batches that can be cut from the filters of the options, and why no more can be. -/
def Options.batches (options : Options) (surrogate? : Char → Option UInt16)
    (settings : Settings) : List (List String) × Option Fault :=
  Filter.batchesUpTo (filterFault? surrogate?) (options.client settings).settings.filterBudget
    options.filterTokens

variable {scenario : Scenario} {clock : Clock} {surrogate? : Char → Option UInt16}
  {configuration : Configuration} {options : Options} {limit : Nat} {browser browser' : Browser}
  {history history' : History} {level : Int} {result : Except Fault Int}

/-- **A run for options queries the batches of their filters.** -/
theorem runQuery_play (hlevel : Log.level configuration.level = .ok level)
    (hquery : (Browser.queryBatches (options.client configuration.master)
      (scenario.console clock surrogate?).world (printer (scenario.console clock surrogate?)) limit
      (options.batches surrogate? configuration.master).1
      (options.batches surrogate? configuration.master).2 : Play _)
        { filters := options.filterTokens } (history ++ [logSetUp options level]) =
          ((result, browser'), history')) :
    (runQuery (scenario.console clock surrogate?) configuration options limit : Play _) browser
        history = ((exitCode result, browser'), history' ++ verdict result) := by
  have hset : ((scenario.console clock surrogate?).setUpLog level
      (if options.debug then Log.componentLoggers else []) : Play Unit) browser history =
        (((), browser), history ++ [logSetUp options level]) := rfl
  have hfilters : (set ({ filters := options.filterTokens } : Browser) : Play PUnit) browser
      (history ++ [logSetUp options level]) =
        (((), { filters := options.filterTokens }), history ++ [logSetUp options level]) := rfl
  rw [runQuery, hlevel]
  refine (play_bind hset).trans ((play_bind hfilters).trans ((play_bind hquery).trans ?_))
  cases result with
  | ok total => rfl
  | error fault =>
      rw [exitCode, verdict]
      cases hfamily : fault.inFamily with
      | true => simp only [hfamily, if_true]; rfl
      | false => simp only [hfamily, Bool.false_eq_true, if_false, List.append_nil]; rfl

/-- Where each character stands for itself, that is a query of a browser with these filters. -/
theorem runQuery_play_of_query (hlevel : Log.level configuration.level = .ok level)
    (hquery : (Browser.query (options.client configuration.master) scenario.console.world
      (printer scenario.console) limit : Play _) { filters := options.filterTokens }
        (history ++ [logSetUp options level]) = ((result, browser'), history')) :
    (runQuery scenario.console configuration options limit : Play _) browser history =
      ((exitCode result, browser'), history' ++ verdict result) := by
  refine runQuery_play hlevel ?_
  have hbytes (token : String) : filterFault? (fun _ => none) token = none := by
    rw [filterFault?, Text.surrogates?_none]
    rfl
  rw [Options.batches, Filter.batchesUpTo_of_forall fun token _ => hbytes token]
  exact hquery

end CommandLine

end ServerBrowser
