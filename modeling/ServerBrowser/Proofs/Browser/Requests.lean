import ServerBrowser.Proofs.Browser.Batches
import ServerBrowser.Proofs.Filter.Batch
import ServerBrowser.Proofs.Listener
import ServerBrowser.Proofs.Listing.Requests
import ServerBrowser.Proofs.Master
import ServerBrowser.Scenario.Script

/-!
# ServerBrowser.Proofs.Browser.Requests

Which packets a query sends, over any transport and whatever arrives (`query_requests`).  The
sockets of a query are made in the order of its batches.  Over each of them go requests for the
tokens of its batch and for no others: the first asks from the null address, and each later one goes
on after the last server that was received on that very socket.  No cursor goes from one batch to
the next.
-/

namespace ServerBrowser

open Scenario

/-! ## listeners that watch -/

/-- Who attends to its pages watches: asides are silent. -/
theorem Listener.Attends.watches {listener : Listener Play} (h : listener.Attends) :
    listener.Watches := by
  intro page browser history
  obtain ⟨result, browser', asides, hplay, hleft, hasides⟩ := h page browser history
  refine ⟨result, browser', .paged page :: asides, hplay, hleft, List.forall_mem_cons.2 ⟨rfl, ?_⟩⟩
  exact hasides.all

/-- A behaviour of actions that leave pages as they are and run no query watches. -/
theorem Behaviour.watches_listener {behaviour : Behaviour}
    (h : ∀ history, ∀ action ∈ behaviour history, action.watches = true)
    (ask : Listener Play → Play (Except Fault Int)) (depth : Nat) :
    (behaviour.listener ask depth).Watches :=
  (attends_listener h ask depth).watches

namespace Browser

variable {client : Client} {scenario : Scenario} {cancellable : Bool} {listener : Listener Play}
  {first : Nat} {past since : History} {batch : List String} {rest : List (List String)}

/-! ## batch after batch -/

/-- Whether all packets in `since`, a part of a history that goes on after `past`, are requests for
batches, each on the socket of its batch; these are numbered from `first` on. -/
def Sends (client : Client) (first : Nat) (past since : History) (batches : List (List String)) :
    Prop :=
  ∀ before socket packet, before ++ [.sent socket packet] <+: since →
    ∃ k batch, socket = first + k ∧ before.socketCount = k + 1 ∧ batches[k]? = some batch ∧
      Listing.Requests ⟨client.master, batch, client.settings⟩
        (History.traffic socket (past ++ before)).sent
        (History.traffic socket (past ++ before)).received packet

theorem sends_nil (batches : List (List String)) : Sends client first past [] batches := by
  intro before socket packet h
  simp at h

/-- The listing of a batch comes first, and then those of the batches that are left. -/
theorem Sends.cons {announced more : History} (hannounced : announced.Silent)
    (hcount : more.socketCount = 1)
    (hmore : ∀ before socket packet, before ++ [.sent socket packet] <+: more →
      socket = first ∧ before.socketCount = 1 ∧
        Listing.Requests ⟨client.master, batch, client.settings⟩
          (History.traffic socket (past ++ announced ++ before)).sent
          (History.traffic socket (past ++ announced ++ before)).received packet)
    (hrest : Sends client (first + 1) (past ++ announced ++ more) since rest) :
    Sends client first past (announced ++ more ++ since) (batch :: rest) := by
  intro before socket packet h
  obtain hfirst | ⟨later, rfl, hlater⟩ := moment_append h
  · obtain hsaid | ⟨between, rfl, hbetween⟩ := moment_append hfirst
    · have hsent := hannounced _ (mem_of_moment hsaid)
      simp [Event.isTraffic] at hsent
    · obtain ⟨rfl, hbefore, hrequest⟩ := hmore between socket packet hbetween
      rw [← List.append_assoc]
      refine ⟨0, batch, rfl, ?_, rfl, hrequest⟩
      rw [History.socketCount_append, hannounced.socketCount, hbefore]
  · obtain ⟨k, other, hsocket, hbefore, hbatch, hrequest⟩ := hrest later socket packet hlater
    rw [← List.append_assoc, ← List.append_assoc]
    refine ⟨k + 1, other, by omega, ?_, hbatch, hrequest⟩
    simp only [History.socketCount_append, hannounced.socketCount, hcount, hbefore]
    omega

/-- The listings of a query send requests only, each on its own socket. -/
theorem listBatches_sends (hwatches : listener.Watches) (client : Client) (scenario : Scenario)
    (cancellable : Bool) (limit number : Nat) (total : Int) (batches : List (List String))
    (browser : Browser) (history past : History)
    (hpast : ∀ socket packet, .sent socket packet ∈ past → socket < history.socketCount) :
    ∃ result browser' since,
      listBatches client (scenario.world cancellable) listener limit number total batches browser
          history = ((result, browser'), history ++ since) ∧
        Sends client history.socketCount past since batches := by
  induction batches generalizing number total browser history past with
  | nil => exact ⟨.ok total, browser, [], by rw [List.append_nil]; rfl, sends_nil _⟩
  | cons batch rest ih =>
      obtain ⟨announced, hstarted, hsilent⟩ : ∃ announced : History,
          batchStarted client number batch history = history ++ announced ∧ announced.Silent :=
        ⟨_, rfl, History.silent_logged _⟩
      have hfirst : (history ++ announced).socketCount = history.socketCount := by
        rw [History.socketCount_append, hsilent.socketCount, Nat.add_zero]
      have hunsent :
          (History.traffic (history ++ announced).socketCount (past ++ announced)).sent = [] := by
        rw [hfirst, (hsilent.traffic _ _).1, List.eq_nil_iff_forall_not_mem]
        intro packet hpacket
        exact absurd (hpast _ _ (History.mem_sent_iff.1 hpacket)) (Nat.lt_irrefl _)
      obtain ⟨listed, browser', more, hrun, hcount, hmore⟩ :=
        Listing.run_requests hwatches ⟨client.master, batch, client.settings⟩ scenario cancellable
          limit browser _ _ hunsent
      rw [hfirst] at hmore
      rw [← hstarted] at hrun
      cases listed with
      | error fault =>
          have hsends := Sends.cons hsilent hcount hmore (sends_nil rest)
          rw [List.append_nil] at hsends
          refine ⟨.error fault, browser', _, (listBatches_of_error hrun).trans ?_, hsends⟩
          rw [hstarted, List.append_assoc]
      | ok state =>
          have hnext : (history ++ announced ++ more).socketCount = history.socketCount + 1 := by
            rw [History.socketCount_append, hfirst, hcount]
          have hsent : ∀ socket packet, .sent socket packet ∈ past ++ announced ++ more →
              socket < (history ++ announced ++ more).socketCount := by
            intro socket packet hmem
            rw [hnext]
            obtain hmem | hmem := List.mem_append.1 hmem
            · obtain hmem | hmem := List.mem_append.1 hmem
              · exact Nat.lt_succ_of_lt (hpast socket packet hmem)
              · cases hsilent _ hmem
            · obtain ⟨before, after, rfl⟩ := List.append_of_mem hmem
              have hsocket := (hmore before socket packet ⟨after, by simp⟩).1
              omega
          obtain ⟨result, browser'', since, hplay, hrest⟩ := ih (number + 1)
            (total + state.serversDelivered) browser' (history ++ announced ++ more) _ hsent
          rw [hnext] at hrest
          refine ⟨result, browser'', _, (listBatches_of_ok hrun).trans ?_,
            Sends.cons hsilent hcount hmore hrest⟩
          rw [hstarted, hplay]
          simp only [List.append_assoc]

/-! ## queries -/

/-- **Every packet of a query is the right one.**  It goes over the socket that the query made for
its batch, and asks for the tokens of that batch: from the null address if it is the first one
there, and after the last server that was received there if it is not.  The tokens stay below the
budget, or are a single one. -/
theorem query_requests (client : Client) (scenario : Scenario) (cancellable : Bool)
    (listener : Listener Play) (limit : Nat) (browser : Browser) (history : History)
    (hwatches : listener.Watches) :
    ∃ result browser' since,
      (query client (scenario.world cancellable) listener limit : Play _) browser history =
        ((result, browser'), history ++ since) ∧
      ∀ (before : History) socket packet, before ++ [.sent socket packet] <+: since →
        ∃ k batch, socket = history.socketCount + k ∧ before.socketCount = k + 1 ∧
          (Filter.batches client.settings.filterBudget browser.filters)[k]? = some batch ∧
          Listing.Requests ⟨client.master, batch, client.settings⟩
            (before.traffic socket).sent (before.traffic socket).received packet ∧
          Filter.Fits client.settings.filterBudget batch := by
  obtain ⟨result, browser', since, hplay, hsends⟩ := listBatches_sends hwatches client scenario
    cancellable limit 1 0 (Filter.batches client.settings.filterBudget browser.filters)
    { browser with querying := true } history [] (by simp)
  have hquery := query_play hplay
  rw [List.append_assoc] at hquery
  refine ⟨result, _, _, hquery, fun before socket packet h => ?_⟩
  obtain hlisted | ⟨between, rfl, hended⟩ := moment_append h
  · obtain ⟨k, batch, hsocket, hbefore, hbatch, hrequest⟩ := hsends before socket packet hlisted
    have hpositive : (0 : Int) < client.settings.filterBudget :=
      Int.natCast_pos.2 client.settings.filterBudget_pos
    exact ⟨k, batch, hsocket, hbefore, hbatch, hrequest,
      Filter.fits_of_mem_batches hpositive (List.mem_of_getElem? hbatch)⟩
  · have hmem := mem_of_moment hended
    cases result <;> simp [ending] at hmem

/-- Two sockets, of which the first gives a server and loses a packet before the end. -/
def twoSockets : Scenario :=
  Script.scenario [
    { receives := [
        .ok (Response.header ++ [1, 2, 3, 4, 105, 135]),
        .error (.raised .transport "lost"),
        .ok (Response.header ++ [0, 0, 0, 0, 0, 0])] },
    { receives := [.ok (Response.header ++ [0, 0, 0, 0, 0, 0])] }] .direct

/-- Two batches, each over its own socket. -/
theorem query_requests_twoSockets :
    (Listener.always []).Watches ∧
      ∃ result browser' since,
        (query ⟨.text "master:27011", { filterBudget := 8 }⟩ (twoSockets.world true)
            (.always []) 10 : Play _) ⟨["\\a\\1", "\\b\\2"], false⟩ [] =
          ((result, browser'), since) ∧
        ∀ (before : History) socket packet, before ++ [.sent socket packet] <+: since →
          ∃ k batch, socket = k ∧ before.socketCount = k + 1 ∧
            (Filter.batches 8 ["\\a\\1", "\\b\\2"])[k]? = some batch ∧
            Listing.Requests ⟨.text "master:27011", batch, { filterBudget := 8 }⟩
              (before.traffic socket).sent (before.traffic socket).received packet ∧
            Filter.Fits 8 batch := by
  have hwatches : (Listener.always []).Watches :=
    Behaviour.watches_listener (by simp) _ 0
  have h := query_requests ⟨.text "master:27011", { filterBudget := 8 }⟩ twoSockets true _ 10
    ⟨["\\a\\1", "\\b\\2"], false⟩ [] hwatches
  simp only [History.socketCount, List.countP_nil, Nat.zero_add, List.nil_append] at h
  exact ⟨hwatches, h⟩

end Browser

end ServerBrowser
