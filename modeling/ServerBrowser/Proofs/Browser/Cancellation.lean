import ServerBrowser.Proofs.Browser.Sockets
import ServerBrowser.Proofs.Filter.Batch
import ServerBrowser.Proofs.Listing.Cancellation
import ServerBrowser.Proofs.Master

/-!
# ServerBrowser.Proofs.Browser.Cancellation

Cancelling a query.  The signal may be set before the query, by the listener, while a packet is
received, or by looking at it or waiting for it; it stays set.  Whenever that happens, nothing is
sent from then on, what the query is at is finished at most, and the query ends (`query_cancels`).

The listings of a query come one after the other, and each of them heeds the signal
(`Listing.run_heeds`).  A listing that starts with the signal set opens its socket, gets nowhere and
closes it again; so only the last listing of a query may end well after the signal is set.
-/

namespace ServerBrowser

open Scenario

/-- To attend to a page concerns no socket. -/
theorem Listener.Attends.isAside {listener : Listener Play} (h : listener.Attends)
    (page : List ServerAddress) : Play.IsAside (listener page) := by
  intro browser history
  obtain ⟨result, browser', asides, hplay, -, hasides⟩ := h page browser history
  refine ⟨result, browser', .paged page :: asides, hplay, List.forall_mem_cons.2 ⟨rfl, ?_⟩⟩
  exact hasides.all

namespace Browser

variable {client : Client} {scenario : Scenario} {listener : Listener Play} {limit : Nat}
  {past since : History} {batches : List (List String)} {result : Except Fault Unit}

/-- How a query ends that lists batches: as the last of its listings does. -/
def Concludes (client : Client) (scenario : Scenario) (listener : Listener Play)
    (batches : List (List String)) (past since : History) (result : Except Fault Unit) : Prop :=
  ∃ earlier more batch, since = earlier ++ more ∧ batch ∈ batches ∧
    Listing.Concludes ⟨client.master, batch, client.settings⟩ scenario listener (past ++ earlier) more
      result

/-- The listings before make no difference to how the last one ends. -/
theorem Concludes.after {rest : List (List String)} {batch : List String} {front : History}
    (h : Concludes client scenario listener rest (past ++ front) since result) :
    Concludes client scenario listener (batch :: rest) past (front ++ since) result := by
  obtain ⟨earlier, more, last, rfl, hlast, hconcludes⟩ := h
  refine ⟨front ++ earlier, more, last, by simp, List.mem_cons_of_mem _ hlast, ?_⟩
  rwa [← List.append_assoc]

/-- The listings of a query heed the signal, one after the other. -/
theorem listBatches_heeds (hattends : listener.Attends) (hlatches : scenario.Latches)
    (hloses : scenario.LosesOnly) (client : Client) (limit number : Nat) (total : Int)
    (batches : List (List String)) (browser : Browser) (history : History) :
    ∃ result browser' since,
      listBatches client (scenario.world true) listener limit number total batches browser
          history = ((result, browser'), history ++ since) ∧
        scenario.Heeds client.settings.retryDelay history since ∧
        (∀ total', result = .ok total' → scenario.OpensUnset history since) ∧
        (batches = [] ∧ result = .ok total ∧ since = [] ∨
          Concludes client scenario listener batches history since (result.map fun _ => ()) ∨
          result = .error .exhausted ∧ scenario.CutShort limit history since) := by
  induction batches generalizing number total browser history with
  | nil =>
      have hnone : scenario.OpensUnset history [] := opensUnset_of_forall (by simp)
      exact ⟨.ok total, browser, [], by rw [List.append_nil]; rfl, heeds_logged [],
        fun _ _ => hnone, .inl ⟨rfl, rfl, rfl⟩⟩
  | cons batch rest ih =>
      have hannounced : scenario.Heeds client.settings.retryDelay history
          ((batchRecords client number batch).map .logged) := heeds_logged _
      have hunopened : scenario.OpensUnset history
          ((batchRecords client number batch).map .logged) := opensUnset_of_forall (by simp)
      obtain ⟨listed, browser', more, hrun, hheeds, hunset, hends⟩ :=
        Listing.run_heeds hattends hlatches hloses ⟨client.master, batch, client.settings⟩ limit
          browser (batchStarted client number batch history)
      have hfirst := hannounced.append hlatches hheeds
      have hfirstEnds : Concludes client scenario listener (batch :: rest) history
          ((batchRecords client number batch).map .logged ++ more) (listed.map fun _ => ()) ∨
          listed = .error .exhausted ∧ scenario.CutShort limit history
            ((batchRecords client number batch).map .logged ++ more) := by
        obtain hconcludes | ⟨hexhausted, hcut⟩ := hends
        · exact .inl ⟨_, more, batch, rfl, List.mem_cons_self, hconcludes⟩
        · exact .inr ⟨hexhausted, hcut.after hlatches⟩
      cases listed with
      | error fault =>
          refine ⟨.error fault, browser', _, (listBatches_of_error hrun).trans ?_, hfirst, by simp,
            .inr ?_⟩
          · rw [batchStarted, List.append_assoc]
          · obtain hconcludes | ⟨⟨⟩, hcut⟩ := hfirstEnds
            · exact .inl hconcludes
            · exact .inr ⟨rfl, hcut⟩
      | ok state =>
          have hopens := hunopened.append (hunset state rfl)
          obtain ⟨result, browser'', since, hplay, hrest, hrestUnset, hrestEnds⟩ := ih (number + 1)
            (total + state.serversDelivered) browser'
            (batchStarted client number batch history ++ more)
          have hsame : batchStarted client number batch history ++ more =
              history ++ ((batchRecords client number batch).map .logged ++ more) :=
            List.append_assoc ..
          have hall := (listBatches_of_ok hrun).trans hplay
          rw [hsame, List.append_assoc] at hall
          rw [hsame] at hrest hrestUnset hrestEnds
          refine ⟨result, browser'', _, hall, hfirst.append hlatches hrest, ?_, .inr ?_⟩
          · intro total' hdone
            exact hopens.append (hrestUnset total' hdone)
          · obtain ⟨-, rfl, rfl⟩ | hconcludes | ⟨rfl, hcut⟩ := hrestEnds
            -- This batch was the last one.
            · obtain hconcludes | ⟨⟨⟩, -⟩ := hfirstEnds
              rw [List.append_nil]
              exact .inl hconcludes
            · exact .inl hconcludes.after
            · exact .inr ⟨rfl, hcut.after hlatches⟩

/-- Two sockets, the first of which gives a server and then loses a packet.  The signal becomes set
with the second delay. -/
def cancelledWaiting : Scenario :=
  Script.scenario [
    { receives := [
        .ok (Response.header ++ [1, 2, 3, 4, 105, 135]),
        .error (.raised .transport "lost"),
        .ok (Response.header ++ [0, 0, 0, 0, 0, 0])] },
    { receives := [.ok (Response.header ++ [0, 0, 0, 0, 0, 0])] }] .direct { onWait := some 2 }

theorem losesOnly_cancelledWaiting : cancelledWaiting.LosesOnly := by
  refine Script.losesOnly_scenario ?_ ?_ rfl _ _
  · simp
  · simp [Fault.isTransport]
    decide

end Browser

end ServerBrowser
