import ServerBrowser.Proofs.Scenario

/-!
# ServerBrowser.Proofs.Browser.Batches

How a query of a browser is played in a scenario: batch after batch, each announced in the log and
listed, up to the first fault.  The equations hold over every transport and every clock.
-/

namespace ServerBrowser.Browser

open Scenario

variable {S : Type} {client : Client} {scenario : Scenario} {transport : Transport Play S}
  {cancellable : Bool} {clock : Clock} {listener : Listener Play} {browser browser' : Browser}
  {history history' : History} {limit number : Nat} {total : Int} {batch : List String}
  {rest : List (List String)}

/-- What the log says before a batch is listed. -/
def batchRecords (client : Client) (number : Nat) (batch : List String) : List Log.Record :=
  Filter.batchRemarks client.settings.filterBudget batch ++
    [record s!"Starting filter batch {number} ({batch.length} filters)"]

/-- The history in which the listing of a batch starts. -/
def batchStarted (client : Client) (number : Nat) (batch : List String) (history : History) :
    History :=
  history ++ (batchRecords client number batch).map .logged

/-- What comes after the announcement of a batch. -/
theorem announce_play {α : Type} (next : Play α) (client : Client) (number : Nat)
    (batch : List String) (browser : Browser) (history : History) :
    ((Filter.batchRemarks client.settings.filterBudget batch).forM Scenario.log >>= fun _ =>
      Scenario.log (record s!"Starting filter batch {number} ({batch.length} filters)") >>= fun _ =>
        next) browser history = next browser (batchStarted client number batch history) := by
  rw [play_bind (forM_log _ browser history), play_bind (log_play _), batchStarted, batchRecords,
    List.map_append, ← List.append_assoc]
  rfl

/-- A fault of the listing of a batch ends the query. -/
theorem listBatches_of_error {fault : Fault}
    (h : Listing.run ⟨client.master, batch, client.settings⟩
      (scenario.surroundings transport cancellable clock) listener limit browser
      (batchStarted client number batch history) = ((.error fault, browser'), history')) :
    listBatches client (scenario.surroundings transport cancellable clock) listener limit number total
        (batch :: rest) browser history =
      ((.error fault, browser'), history') := by
  rw [listBatches]
  exact (announce_play _ client number batch browser history).trans (play_bind h)

/-- After the listing of a batch the query goes on with the batches that are left. -/
theorem listBatches_of_ok {state : Listing.State}
    (h : Listing.run ⟨client.master, batch, client.settings⟩
      (scenario.surroundings transport cancellable clock) listener limit browser
      (batchStarted client number batch history) = ((.ok state, browser'), history')) :
    listBatches client (scenario.surroundings transport cancellable clock) listener limit number total
        (batch :: rest) browser history =
      listBatches client (scenario.surroundings transport cancellable clock) listener limit (number + 1)
        (total + state.serversDelivered) rest browser' history' := by
  rw [listBatches]
  exact (announce_play _ client number batch browser history).trans (play_bind h)

/-- What a query says when its listings are over. -/
def ending : Except Fault Int → History
  | .ok total => [.logged (record s!"Master query finished: {total} server(s)")]
  | .error _ => []

/-- How a query ends whose listings have ended: with what could not be cut, if they all ended
well. -/
def concluded (refusal : Option Fault) : Except Fault Int → Except Fault Int
  | .ok total =>
    match refusal with
    | some fault => .error fault
    | none => .ok total
  | .error fault => .error fault

/-- A query of batches lists them, and says so if nothing has failed. -/
theorem queryBatches_play {batches : List (List String)} {result : Except Fault Int}
    (refusal : Option Fault)
    (h : listBatches client (scenario.surroundings transport cancellable clock) listener limit 1 0
      batches { browser with querying := true } history = ((result, browser'), history')) :
    (queryBatches client (scenario.surroundings transport cancellable clock) listener limit batches
        refusal : Play _) browser history =
      ((concluded refusal result, { browser' with querying := false }),
        history' ++ ending (concluded refusal result)) := by
  have hset : (modifyThe Browser fun b => { b with querying := true } : Play Unit) browser history =
      (((), { browser with querying := true }), history) := rfl
  rw [queryBatches, play_bind hset, play_bind h]
  have hnothing : history' ++ [] = history' := List.append_nil _
  cases result with
  | error fault =>
      rw [concluded, ending, hnothing]
      rfl
  | ok total =>
      cases refusal with
      | some fault =>
          simp only [concluded, ending, hnothing]
          rfl
      | none => rfl

/-- A query lists the batches of the filters that the browser has when it starts. -/
theorem query_play {result : Except Fault Int}
    (h : listBatches client (scenario.surroundings transport cancellable clock) listener limit 1 0
      (Filter.batches client.settings.filterBudget browser.filters)
      { browser with querying := true } history = ((result, browser'), history')) :
    (query client (scenario.surroundings transport cancellable clock) listener limit : Play _) browser
        history =
      ((result, { browser' with querying := false }), history' ++ ending result) := by
  have hget : (getThe Browser : Play Browser) browser history = ((browser, browser), history) := rfl
  have hconcluded : concluded none result = result := by cases result <;> rfl
  rw [query, play_bind hget, queryBatches_play none h, hconcluded]

end ServerBrowser.Browser
