import ServerBrowser.Log.Registry
import ServerBrowser.Proofs.CommandLine.Options
import ServerBrowser.Proofs.CommandLine.Printing
import ServerBrowser.Proofs.Text.Lines
import ServerBrowser.Scenario.Script

/-!
# ServerBrowser.Proofs.CommandLine.Output

What the program writes that is asked for servers, whatever its arguments are and whatever the
operating system does.  On standard output there is a line for each server of the packets that were
decoded, and nothing else.  The exit code is 0 exactly if the last page of each batch was among
them, and then standard error ends with a line that says how many they are (`run_lists`).

Standard error is shared with the log: `History.errors` reads it off a history, for every clock and
every registry of loggers.
-/

namespace ServerBrowser

open Scenario

/-- Whether an event sets up the log, or is a word to it or to standard error. -/
def Event.isSpoken : Event → Bool
  | .logSetUp .. | .logged _ | .reported _ => true
  | _ => false

namespace History

/-! ## standard error -/

/-- What is on standard error: what is reported, and the records that the registry writes, with the
time that a clock shows at each event. -/
def errors (clock : Nat → String) (registry : Log.Registry) : History → String
  | [] => ""
  | event :: rest =>
    let later := fun n => clock (n + 1)
    match event with
    | .logSetUp level debugged => errors later (registry.setup level debugged) rest
    | .logged record => registry.write (clock 0) record ++ errors later registry rest
    | .reported text => text ++ errors later registry rest
    | _ => errors later registry rest

variable {more : History}

/-- What is reported last stands at the end. -/
theorem errors_concat (clock : Nat → String) (registry : Log.Registry) (more : History)
    (text : String) :
    errors clock registry (more ++ [.reported text]) = errors clock registry more ++ text := by
  induction more generalizing clock registry with
  | nil => simp [errors]
  | cons event rest ih =>
      rw [List.cons_append]
      cases event with
      | logged record | reported said => simp only [errors, ih, String.append_assoc]
      | _ => simp only [errors, ih]

theorem isLines_write (registry : Log.Registry) (time : String) (record : Log.Record) :
    ∃ lines, Text.IsLines (registry.write time record) lines := by
  rw [Log.Registry.write]
  split
  · exact Text.exists_isLines _
  · exact ⟨[], Text.isLines_empty⟩

/-- The log writes whole lines. -/
theorem isLines_errors (clock : Nat → String) (registry : Log.Registry)
    (h : ∀ text, .reported text ∉ more) :
    ∃ lines, Text.IsLines (more.errors clock registry) lines := by
  induction more generalizing clock registry with
  | nil => exact ⟨[], Text.isLines_empty⟩
  | cons event rest ih =>
      have hrest (clock : Nat → String) (registry : Log.Registry) :=
        ih clock registry fun text hmem => h text (List.mem_cons_of_mem event hmem)
      cases event with
      | logged record =>
          obtain ⟨first, hfirst⟩ := isLines_write registry (clock 0) record
          obtain ⟨lines, hlines⟩ := hrest (fun n => clock (n + 1)) registry
          exact ⟨first ++ lines, hfirst.append hlines⟩
      | reported text => exact absurd List.mem_cons_self (h text)
      | logSetUp level debugged => exact hrest _ (registry.setup level debugged)
      | _ => exact hrest _ registry

/-! ## words -/

/-- Events of setting up the log, of its words and of those to standard error. -/
def Spoken (more : History) : Prop :=
  ∀ event ∈ more, event.isSpoken = true

theorem Spoken.decoded (h : more.Spoken) (socket : Nat) : more.decoded socket = [] :=
  decoded_eq_nil fun _ hmem => by cases h _ hmem

theorem Spoken.socketCount (h : more.Spoken) : more.socketCount = 0 := by
  rw [History.socketCount, List.countP_eq_zero]
  intro event hevent
  have hspoken := h event hevent
  cases event <;> simp_all [Event.isSpoken]

theorem Spoken.arrivals (h : more.Spoken) : more.arrivals = [] :=
  arrivals_eq_nil fun _ _ hmem => by cases h _ hmem

theorem Spoken.output (h : more.Spoken) : more.output = "" :=
  output_eq_empty fun _ hmem => by cases h _ hmem

/-! ## servers -/

/-- The servers of all packets that were received, in the order in which they came. -/
def servers (history : History) : List ServerAddress :=
  history.arrivals.flatMap Page.servers

theorem isRecord_of_mem_servers {server : ServerAddress} (h : server ∈ more.servers) :
    server.IsRecord := by
  obtain ⟨page, hpage, hserver⟩ := List.mem_flatMap.1 h
  obtain ⟨event, -, hevent⟩ := List.mem_filterMap.1 hpage
  cases event with
  | received socket packet =>
      cases hparse : Response.parse packet with
      | error fault => simp [hparse, Except.toOption] at hevent
      | ok other =>
          obtain rfl : other = page := by simpa [hparse, Except.toOption] using hevent
          exact (Response.parse_eq_ok hparse).1 server hserver
  | _ => cases hevent

end History

namespace CommandLine

variable {scenario : Scenario} {configuration : Configuration} {options : Options} {limit : Nat}
  {browser browser' : Browser} {past since history history' : History}

/-- The text of a page has a line for each of its servers. -/
theorem isLines_pageText {page : List ServerAddress} (h : ∀ server ∈ page, server.IsRecord) :
    Text.IsLines (pageText page) (page.map ServerAddress.text) where
  bare line hline := by
    obtain ⟨server, hserver, rfl⟩ := List.mem_map.1 hline
    intro hnewline
    have hbounds := ServerAddress.bounds_of_mem_text (h server hserver) hnewline
    exact absurd hbounds.1 (by decide)
  joined := by
    rw [pageText, List.map_map]
    rfl

/-- The line that says how many servers there are. -/
theorem isLines_total (count : Nat) :
    Text.IsLines s!"{(count : Int)} server(s)\n" [s!"{count} server(s)"] := by
  have hline : s!"{(count : Int)} server(s)\n" = toString (count : Int) ++ " server(s)" ++ "\n" := by
    rw [String.append_assoc]
    rfl
  have hbare : '\n' ∉ (toString (count : Int) ++ " server(s)").toList := by
    rw [String.toList_append, Text.toString_int_eq, String.toList_ofList, List.mem_append]
    rintro (hnewline | hnewline)
    · exact absurd (Text.bounds_of_mem_signedDigits hnewline).1 (by decide)
    · exact absurd hnewline (by decide)
  rw [hline]
  exact Text.isLines_singleton hbare

/-! ## running a query -/

/-- What a run asks and writes whose client lists the servers of filters, after `past`, and how it
ends. -/
structure Lists (client : Client) (filters : List String) (past since : History) (code : Nat) :
    Prop where
  /-- A socket asks for the filters of one batch, the first socket for those of the first batch, and
  nothing else is asked. -/
  asked : ∀ socket packet, .sent socket packet ∈ since → ∃ k batch, socket = past.socketCount + k ∧
    (Filter.batches client.settings.filterBudget filters)[k]? = some batch ∧
    Listing.Writes ⟨client.master, batch, client.settings⟩ packet
  /-- Standard output has a line for each server, in the order in which they came. -/
  output : Text.IsLines since.output (since.servers.map ServerAddress.text)
  /-- The batches are listed one after the other, a next one where all before came to their ends. -/
  listed : ∃ k < (Filter.batches client.settings.filterBudget filters).length,
    since.socketCount = k + 1 ∧ ∀ i < k, since.IsComplete (past.socketCount + i)
  exits : code = 0 ∨ code = 1
  complete : code = 0 ↔ ∀ k < (Filter.batches client.settings.filterBudget filters).length,
    since.IsComplete (past.socketCount + k)
  /-- Standard error ends with the number of lines of standard output. -/
  total : code = 0 → ∀ clock registry, ∃ lines, Text.IsLines (since.errors clock registry)
    (lines ++ [s!"{since.servers.length} server(s)"])

theorem spoken_verdict (result : Except Fault Int) : (verdict result).Spoken := by
  cases result with
  | ok total => simp [verdict, History.Spoken, Event.isSpoken]
  | error fault =>
      rw [verdict]
      split <;> simp [History.Spoken, Event.isSpoken]

/-- A query that has an exit code has succeeded, or has failed. -/
theorem eq_of_exitCode {result : Except Fault Int} {code : Nat} (h : exitCode result = .ok code) :
    (∃ total, result = .ok total ∧ code = 0) ∨ ∃ fault, result = .error fault ∧ code = 1 := by
  cases result with
  | ok total => exact .inl ⟨total, rfl, (Except.ok.inj h).symm⟩
  | error fault =>
      rw [exitCode] at h
      split at h
      · exact .inr ⟨fault, rfl, (Except.ok.inj h).symm⟩
      · cases h

/-- Standard error ends with the total that is told at last. -/
theorem exists_isLines_total (h : ∀ text, .reported text ∉ since) (count : Nat)
    (clock : Nat → String) (registry : Log.Registry) :
    ∃ lines, Text.IsLines (History.errors clock registry (since ++ verdict (.ok (count : Int))))
      (lines ++ [s!"{count} server(s)"]) := by
  obtain ⟨lines, hlines⟩ := History.isLines_errors clock registry h
  refine ⟨lines, ?_⟩
  rw [verdict, History.errors_concat]
  exact hlines.append (isLines_total count)

/-- A run lists servers as its query does; what is said before and after makes no difference. -/
theorem lists_of_printed {client : Client} {filters : List String} {setUp : Event}
    {pages : List (List ServerAddress)} {result : Except Fault Int} {code : Nat}
    (hspoken : setUp.isSpoken = true) (hunreported : ∀ text, .reported text ≠ setUp)
    (hprinted : Browser.Printed client (Filter.batches client.settings.filterBudget filters)
      past.socketCount since pages)
    (htotals : Browser.Totals (Filter.batches client.settings.filterBudget filters)
      past.socketCount since pages.flatten.length result)
    (hcode : exitCode result = .ok code) :
    Lists client filters past (setUp :: since ++ verdict result) code := by
  have hsetUp : History.Spoken [setUp] := by simpa [History.Spoken] using hspoken
  have hverdict := spoken_verdict result
  have hdecoded (socket : Nat) :
      History.decoded socket (setUp :: since ++ verdict result) = since.decoded socket := by
    rw [← List.singleton_append, History.decoded_append, History.decoded_append, hsetUp.decoded,
      hverdict.decoded, List.nil_append, List.append_nil]
  have hcount : History.socketCount (setUp :: since ++ verdict result) = since.socketCount := by
    rw [← List.singleton_append, History.socketCount_append, History.socketCount_append,
      hsetUp.socketCount, hverdict.socketCount, Nat.zero_add, Nat.add_zero]
  have harrivals : History.arrivals (setUp :: since ++ verdict result) = since.arrivals := by
    rw [← List.singleton_append, History.arrivals_append, History.arrivals_append, hsetUp.arrivals,
      hverdict.arrivals, List.nil_append, List.append_nil]
  have houtput : History.output (setUp :: since ++ verdict result) = since.output := by
    rw [← List.singleton_append, History.output_append, History.output_append, hsetUp.output,
      hverdict.output, String.empty_append, String.append_empty]
  have hservers : History.servers (setUp :: since ++ verdict result) = pages.flatten := by
    rw [History.servers, harrivals, hprinted.arrived, List.flatMap_def]
  refine ⟨fun socket packet hsent => ?_, ?_, ?_, ?_, ?_, fun hzero clock registry => ?_⟩
  · obtain hsent | hsent := List.mem_append.1 hsent
    · obtain hsent | hsent := List.mem_cons.1 hsent
      · rw [← hsent] at hspoken
        cases hspoken
      · exact hprinted.asked socket packet hsent
    · cases hverdict _ hsent
  · rw [houtput, hprinted.output, ← hservers]
    exact isLines_pageText fun server hserver => History.isRecord_of_mem_servers hserver
  · simp only [History.IsComplete, hdecoded, hcount]
    cases result with
    | ok total =>
        have hsome := List.length_pos_of_ne_nil
          (Filter.batches_ne_nil client.settings.filterBudget filters)
        obtain ⟨-, hopened, hall⟩ := htotals
        exact ⟨_, Nat.sub_one_lt_of_lt hsome, by rw [hopened, Nat.sub_add_cancel hsome],
          fun i hi => hall i (Nat.lt_of_lt_of_le hi (Nat.sub_le _ 1))⟩
    | error fault =>
        obtain ⟨k, hk, hopened, hbefore, -⟩ := htotals
        exact ⟨k, hk, hopened, hbefore⟩
  · exact (eq_of_exitCode hcode).imp (fun h => h.elim fun _ h => h.2) fun h => h.elim fun _ h => h.2
  · simp only [History.IsComplete, hdecoded]
    obtain ⟨total, rfl, rfl⟩ | ⟨fault, rfl, rfl⟩ := eq_of_exitCode hcode
    · exact iff_of_true rfl htotals.2.2
    · obtain ⟨k, hk, -, -, hincomplete⟩ := htotals
      exact iff_of_false Nat.one_ne_zero fun hall => hincomplete (hall k hk)
  · obtain ⟨total, rfl, -⟩ | ⟨fault, -, rfl⟩ := eq_of_exitCode hcode
    · obtain rfl := htotals.1
      rw [hservers]
      refine exists_isLines_total (fun text hreported => ?_) _ clock registry
      obtain hreported | hreported := List.mem_cons.1 hreported
      · exact hunreported text hreported
      · exact hprinted.unreported text hreported
    · cases hzero

/-- **What a run lists.**  A run that ends with an exit code has asked for the batches of its
filters: a token for each app id of the arguments, and the filters of the arguments after them.  It
has printed a line for each server that came, in order, and nothing else, also where it has failed.
It ends with 0 exactly if each batch came to its last page, and then tells their number last. -/
theorem run_lists {arguments : List String} {code : Nat}
    (hread : readArguments configuration.master.address arguments = .ok (.run options))
    (hrun : (run scenario.console configuration arguments limit : Play _) browser history =
      ((.ok code, browser'), history')) :
    ∃ marks ids since, markAll arguments = .ok marks ∧
      List.Forall₂ (fun value id => Text.readInt value = .ok id) (valuesOf .appId (given marks))
        ids ∧
      browser'.filters = ids.map (fun id => Filter.token "appid" (toString id)) ++
        valuesOf .filter (given marks) ∧
      history' = history ++ since ∧
      Lists (options.client configuration.master) browser'.filters history since code := by
  rw [run, hread] at hrun
  obtain ⟨marks, hmarks, hgiven⟩ := areGiven_of_readArguments hread
  cases hlevel : Log.level configuration.level with
  | error fault =>
      simp only [runQuery, hlevel] at hrun
      cases hrun
  | ok level =>
      obtain ⟨result, pages, since, hquery, hprinted⟩ := Browser.query_prints
        (options.client configuration.master) rfl scenario limit
        { filters := options.filterTokens } (history ++ [logSetUp options level])
      have hsame := (runQuery_play_of_query hlevel hquery).symm.trans hrun
      obtain ⟨hends, rfl⟩ := Prod.mk.inj hsame
      obtain ⟨hcode, rfl⟩ := Prod.mk.inj hends
      have hleft : result ≠ .error .exhausted := by
        rintro rfl
        cases hcode
      have hcount : History.socketCount (history ++ [logSetUp options level]) =
          history.socketCount := by
        rw [History.socketCount_append]
        rfl
      obtain ⟨hlistings, htotals⟩ := hprinted hleft
      rw [hcount] at hlistings htotals
      refine ⟨marks, options.appIds, logSetUp options level :: since ++ verdict result, hmarks,
        hgiven.appIds, ?_, ?_, lists_of_printed rfl (fun _ => Event.noConfusion) hlistings htotals
        hcode⟩
      · rw [← hgiven.filters]
        rfl
      · simp

/-- Two sockets: the first gives a server and comes to its end after it, the second gives both at
once. -/
def twoServers : List Script :=
  [{ receives := [
      .ok (Response.header ++ [1, 2, 3, 4, 105, 135]),
      .ok (Response.header ++ [0, 0, 0, 0, 0, 0])] },
    { receives := [.ok (Response.header ++ [5, 6, 7, 8, 0, 80, 0, 0, 0, 0, 0, 0])] }]

/-- A run over these sockets, for two filters. -/
def twoServersPlay (configuration : Configuration) : (Except Fault Nat × Browser) × History :=
  (run (Script.scenario twoServers .system).console configuration
    ["--filter=\\map\\a", "--appid", "440"] 10 : Play _) {} []

/-- Filters that do not fit into one batch: both batches come to their ends, and their servers are
printed and counted. -/
theorem run_lists_twoServers :
    ∃ configuration : Configuration, configuration.master.filterBudget = 12 ∧
      readArguments configuration.master.address ["--filter=\\map\\a", "--appid", "440"] =
        .ok (.run ⟨("hl2master.steampowered.com", 27011), [440], ["\\map\\a"], none, false⟩) ∧
      (twoServersPlay configuration).1.1 = .ok 0 ∧
      (twoServersPlay configuration).2.output = "1.2.3.4:27015\n5.6.7.8:80\n" ∧
      ∃ marks ids since, markAll ["--filter=\\map\\a", "--appid", "440"] = .ok marks ∧
        List.Forall₂ (fun value id => Text.readInt value = .ok id) (valuesOf .appId (given marks))
          ids ∧
        (twoServersPlay configuration).1.2.filters =
          ids.map (fun id => Filter.token "appid" (toString id)) ++
            valuesOf .filter (given marks) ∧
        (twoServersPlay configuration).2 = [] ++ since ∧
        Lists ⟨.pair "hl2master.steampowered.com" 27011, configuration.master⟩
          (twoServersPlay configuration).1.2.filters [] since 0 := by
  have hends : ∀ played : (Except Fault Nat × Browser) × History, played.1.1 = .ok 0 →
      played = ((.ok 0, played.1.2), played.2) := by
    rintro ⟨⟨_, _⟩, _⟩ rfl
    rfl
  have hread : readArguments (Configuration.master { master := { filterBudget := 12 } }).address
      ["--filter=\\map\\a", "--appid", "440"] =
        .ok (.run ⟨("hl2master.steampowered.com", 27011), [440], ["\\map\\a"], none, false⟩) := by
    decide +kernel
  have hcode : (twoServersPlay { master := { filterBudget := 12 } }).1.1 = .ok 0 := by
    decide +kernel
  have hlists := run_lists hread (hends (twoServersPlay { master := { filterBudget := 12 } }) hcode)
  exact ⟨{ master := { filterBudget := 12 } }, rfl, hread, hcode, by decide +kernel, hlists⟩

end CommandLine

end ServerBrowser
