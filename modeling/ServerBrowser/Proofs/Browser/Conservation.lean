import ServerBrowser.Proofs.Browser.Batches
import ServerBrowser.Proofs.Filter.Batch
import ServerBrowser.Proofs.Listing.Gathering

/-!
# ServerBrowser.Proofs.Browser.Conservation

Nothing is lost and nothing is made up in a query (`query_conserves`).  Three counts are kept on the
way: the pages by the listener, the servers of a listing in its state, and the servers of the whole
query in its total.  They agree with one another and with the packets that were decoded, over any
number of batches and pages, whatever is lost in between and wherever the query fails.

`Collected` says what a row of listings hands on, socket by socket; a listing before the others adds
its own pages in front (`Collected.cons`).
-/

namespace ServerBrowser

open Scenario

/-! ## pages socket by socket -/

namespace History

variable {first socket : Nat} {more since : History} {pages pages' : List (List ServerAddress)}

/-- Events that are not about a socket bring no page on it. -/
theorem decoded_of_apart (h : ∀ event ∈ more, event.socket? ≠ some socket) :
    more.decoded socket = [] :=
  decoded_eq_nil fun _ hmem => h _ hmem rfl

/-- What was handed on in a part of a history: the pages decoded on the sockets that were opened in
it, one socket after the other. -/
structure Collected (first : Nat) (since : History) (pages : List (List ServerAddress)) : Prop where
  numbered : ∀ event ∈ since, ∀ socket, event.socket? = some socket → first ≤ socket
  delivered : pages = (List.range since.socketCount).flatMap fun k =>
    (since.decoded (first + k)).map Page.servers

theorem collected_nil (first : Nat) : Collected first [] [] where
  numbered := by simp
  delivered := rfl

/-- Events that are words of the log. -/
def Said (announced : History) : Prop :=
  ∀ event ∈ announced, ∃ record, event = .logged record

theorem said_logged (records : List Log.Record) : Said (records.map .logged) := by
  intro event hevent
  obtain ⟨record, -, rfl⟩ := List.mem_map.1 hevent
  exact ⟨record, rfl⟩

theorem Said.silent {announced : History} (h : announced.Said) : announced.Silent := by
  intro event hevent
  obtain ⟨record, rfl⟩ := h event hevent
  rfl

variable {announced : History} {result : Except Fault Listing.State}

/-- The pages on the first socket are those of the first listing. -/
theorem decoded_first (hannounced : announced.Said)
    (hsince : Collected (first + 1) since pages') :
    (announced ++ more ++ since).decoded first = more.decoded first := by
  have hlater : since.decoded first = [] := decoded_of_apart fun event hevent habout =>
    absurd (hsince.numbered event hevent first habout) (Nat.not_succ_le_self first)
  rw [decoded_append, decoded_append, hannounced.silent.decoded, hlater, List.append_nil,
    List.nil_append]

/-- The pages on a later socket are those of the later listings. -/
theorem decoded_later (hannounced : announced.Said)
    (hmore : Listing.Gathered first more pages result) (k : Nat) :
    (announced ++ more ++ since).decoded (first + (k + 1)) = since.decoded (first + 1 + k) := by
  have hearlier : more.decoded (first + (k + 1)) = [] := decoded_of_apart fun event hevent habout =>
    absurd (hmore.alone event hevent _ habout) (by omega)
  rw [decoded_append, decoded_append, hannounced.silent.decoded, hearlier, List.nil_append,
    List.nil_append, Nat.add_assoc, Nat.add_comm 1]

theorem socketCount_cons (since : History) (hannounced : announced.Said)
    (hmore : Listing.Gathered first more pages result) :
    (announced ++ more ++ since).socketCount = since.socketCount + 1 := by
  rw [socketCount_append, socketCount_append, hannounced.silent.socketCount, hmore.socketCount]
  omega

/-- **The first listing hands on its pages before the others do.** -/
theorem Collected.cons (hannounced : announced.Said)
    (hmore : Listing.Gathered first more pages result)
    (hsince : Collected (first + 1) since pages') :
    Collected first (announced ++ more ++ since) (pages ++ pages') where
  numbered event hevent socket habout := by
    obtain hevent | hevent := List.mem_append.1 hevent
    · obtain hevent | hevent := List.mem_append.1 hevent
      · obtain ⟨record, rfl⟩ := hannounced event hevent
        cases habout
      · exact Nat.le_of_eq (hmore.alone event hevent socket habout).symm
    · exact Nat.le_of_succ_le (hsince.numbered event hevent socket habout)
  delivered := by
    rw [socketCount_cons since hannounced hmore, List.range_succ_eq_map, List.flatMap_cons,
      List.flatMap_map, Nat.add_zero, decoded_first hannounced hsince, ← hmore.delivered]
    simp only [decoded_later hannounced hmore]
    rw [← hsince.delivered]

/-- What is said after the listings brings no more pages. -/
theorem Collected.said (h : Collected first since pages) (hsaid : announced.Said) :
    Collected first (since ++ announced) pages where
  numbered event hevent socket habout := by
    obtain hevent | hevent := List.mem_append.1 hevent
    · exact h.numbered event hevent socket habout
    · obtain ⟨record, rfl⟩ := hsaid event hevent
      cases habout
  delivered := by
    have hdecoded (k : Nat) :
        (since ++ announced).decoded (first + k) = since.decoded (first + k) := by
      rw [decoded_append, hsaid.silent.decoded, List.append_nil]
    rw [socketCount_append, hsaid.silent.socketCount, Nat.add_zero]
    simp only [hdecoded]
    exact h.delivered

end History

namespace Browser

/-! ## batch after batch, with something kept -/

section Kept

variable {σ α : Type} {client : Client} {scenario : Scenario} {cancellable : Bool}
  {upper : Listener (StateT σ Play)} {kept kept' : σ} {browser browser' : Browser}
  {history history' : History} {limit number : Nat} {total : Int} {batch : List String}
  {rest : List (List String)}

theorem keep_forM_log (records : List Log.Record) (kept : σ) (browser : Browser)
    (history : History) :
    (records.forM fun record => (monadLift (log record : Play Unit) : StateT σ Play Unit)) kept
        browser history = ((((), kept), browser), history ++ records.map .logged) := by
  induction records generalizing history with
  | nil =>
      rw [List.map_nil, List.append_nil]
      rfl
  | cons record records ih =>
      refine (keep_bind (monadLift_play (log_play record) kept)).trans ?_
      rw [ih, List.map_cons, List.append_assoc]
      rfl

/-- What comes after the announcement of a batch. -/
theorem keep_announce (next : StateT σ Play α) (client : Client) (scenario : Scenario)
    (cancellable : Bool) (number : Nat) (batch : List String) (kept : σ) (browser : Browser)
    (history : History) :
    ((Filter.batchRemarks client.settings.filterBudget batch).forM
        (scenario.world cancellable).lift.log >>= fun _ =>
      (scenario.world cancellable).lift.log
        (record s!"Starting filter batch {number} ({batch.length} filters)") >>= fun _ => next) kept
      browser history = next kept browser (batchStarted client number batch history) := by
  refine (keep_bind (keep_forM_log _ kept browser history)).trans
    ((keep_bind (monadLift_play (log_play _) kept)).trans ?_)
  rw [batchStarted, batchRecords, List.map_append, ← List.append_assoc]
  rfl

/-- A fault of the listing of a batch ends the query. -/
theorem keep_listBatches_of_error {fault : Fault}
    (h : Listing.run ⟨client.master, batch, client.settings⟩ (scenario.world cancellable).lift upper
      limit kept browser (batchStarted client number batch history) =
        (((.error fault, kept'), browser'), history')) :
    listBatches client (scenario.world cancellable).lift upper limit number total (batch :: rest)
        kept browser history = (((.error fault, kept'), browser'), history') := by
  rw [listBatches]
  exact (keep_announce _ client scenario cancellable number batch kept browser history).trans
    (keep_bind h)

/-- After the listing of a batch the query goes on with the batches that are left. -/
theorem keep_listBatches_of_ok {state : Listing.State}
    (h : Listing.run ⟨client.master, batch, client.settings⟩ (scenario.world cancellable).lift upper
      limit kept browser (batchStarted client number batch history) =
        (((.ok state, kept'), browser'), history')) :
    listBatches client (scenario.world cancellable).lift upper limit number total (batch :: rest)
        kept browser history =
      listBatches client (scenario.world cancellable).lift upper limit (number + 1)
        (total + state.serversDelivered) rest kept' browser' history' := by
  rw [listBatches]
  exact (keep_announce _ client scenario cancellable number batch kept browser history).trans
    (keep_bind h)

/-- A query keeps what its listings keep. -/
theorem keep_query {result : Except Fault Int}
    (h : listBatches client (scenario.world cancellable).lift upper limit 1 0
      (Filter.batches client.settings.filterBudget browser.filters) kept
      { browser with querying := true } history = (((result, kept'), browser'), history')) :
    (query client (scenario.world cancellable).lift upper limit : StateT σ Play _) kept browser
        history =
      (((result, kept'), { browser' with querying := false }), history' ++ ending result) := by
  have hget : (getThe Browser : StateT σ Play Browser) kept browser history =
      (((browser, kept), browser), history) := rfl
  have hset : (modifyThe Browser fun b => { b with querying := true } : StateT σ Play Unit) kept
      browser history = ((((), kept), { browser with querying := true }), history) := rfl
  rw [query]
  refine (keep_bind hget).trans ((keep_bind hset).trans ((keep_bind h).trans ?_))
  cases result with
  | ok total => rfl
  | error fault =>
      rw [ending, List.append_nil]
      rfl

end Kept

/-! ## all listings of a query -/

/-- That the listing of a batch fails after those of all batches before it have succeeded: its
socket is the last one that is opened. -/
structure FailsAt (client : Client)
    (world : Surroundings (StateT (List (List ServerAddress)) Play) Nat) (limit : Nat)
    (browser : Browser) (history since : History) (batches : List (List String)) (fault : Fault)
    (k : Nat) : Prop where
  opened : since.socketCount = k + 1
  before : ∀ i < k, since.IsComplete (history.socketCount + i)
  incomplete : ¬ since.IsComplete (history.socketCount + k)
  /-- The fault is the one of that listing. -/
  raised : ∃ (batch : List String) (front : History) (kept : List (List ServerAddress)),
    batches[k]? = some batch ∧ front <+: since ∧ front.socketCount = k ∧
    (Listing.run ⟨client.master, batch, client.settings⟩ world Listener.recorder limit kept browser
      (history ++ front)).1.1.1 = .error fault

/-- How the listings of batches have ended: all of them are complete and their servers are added up,
or one of them has failed. -/
def ComesTo (client : Client) (world : Surroundings (StateT (List (List ServerAddress)) Play) Nat)
    (limit : Nat) (browser : Browser) (history since : History) (batches : List (List String))
    (sum : Int) : Except Fault Int → Prop :=
  Ends (fun total => total = sum ∧ since.socketCount = batches.length ∧
      ∀ k < batches.length, since.IsComplete (history.socketCount + k))
    (fun fault => ∃ k, FailsAt client world limit browser history since batches fault k)

section Batches

variable {client : Client} {world : Surroundings (StateT (List (List ServerAddress)) Play) Nat}
  {limit : Nat} {browser : Browser} {history announced more since : History} {batch : List String}
  {rest : List (List String)} {pages pages' : List (List ServerAddress)}
  {listed : Except Fault Listing.State} {sum : Int}

theorem isComplete_first (hannounced : announced.Said)
    (hsince : History.Collected (history.socketCount + 1) since pages') :
    (announced ++ more ++ since).IsComplete history.socketCount ↔
      more.IsComplete history.socketCount := by
  rw [History.IsComplete, History.decoded_first hannounced hsince, History.IsComplete]

theorem isComplete_later (since : History) (hannounced : announced.Said)
    (hmore : Listing.Gathered history.socketCount more pages listed) (k : Nat) :
    (announced ++ more ++ since).IsComplete (history.socketCount + (k + 1)) ↔
      since.IsComplete ((history ++ announced ++ more).socketCount + k) := by
  have hcount : (history ++ announced ++ more).socketCount = history.socketCount + 1 := by
    rw [History.socketCount_append, History.socketCount_append, hannounced.silent.socketCount,
      hmore.socketCount, Nat.add_zero]
  rw [History.IsComplete, History.decoded_later hannounced hmore, History.IsComplete, hcount]

/-- **A listing that succeeds leaves it to the others how all of them end.** -/
theorem ComesTo.cons {result : Except Fault Int} (hannounced : announced.Said)
    (hmore : Listing.Gathered history.socketCount more pages listed)
    (hcomplete : more.IsComplete history.socketCount)
    (hsince : History.Collected (history.socketCount + 1) since pages')
    (h : ComesTo client world limit browser (history ++ announced ++ more) since rest sum result) :
    ComesTo client world limit browser history (announced ++ more ++ since) (batch :: rest) sum
      result := by
  have hfirst := (isComplete_first hannounced hsince).2 hcomplete
  have hlater := isComplete_later since hannounced hmore
  have hcount := History.socketCount_cons since hannounced hmore
  cases result with
  | ok total =>
      obtain ⟨htotal, hopened, hall⟩ := h
      refine ⟨htotal, by rw [hcount, hopened, List.length_cons], fun k hk => ?_⟩
      cases k with
      | zero => exact hfirst
      | succ k => exact (hlater k).2 (hall k (Nat.lt_of_succ_lt_succ hk))
  | error fault =>
      obtain ⟨k, hopened, hbefore, hincomplete, failed, front, kept, hbatch, hfront, hk, hrun⟩ := h
      refine ⟨k + 1, by rw [hcount, hopened], fun i hi => ?_, ?_, failed,
        announced ++ more ++ front, kept, hbatch, ?_, ?_, ?_⟩
      · cases i with
        | zero => exact hfirst
        | succ i => exact (hlater i).2 (hbefore i (Nat.lt_of_succ_lt_succ hi))
      · rw [hlater]
        exact hincomplete
      · exact (List.prefix_append_right_inj _).2 hfront
      · rw [History.socketCount_cons front hannounced hmore, hk]
      · simpa only [List.append_assoc] using hrun

end Batches

/-- **All listings of a query together hand on what is decoded on their sockets.** -/
theorem listBatches_conserves (client : Client) (scripts : List Script) (ending : Script.Ending)
    (cancel : CancelScript) (start : Nat) (cancellable : Bool) (limit : Nat)
    (hlimit : ∀ socket, 2 + Script.supply scripts socket [] * (client.settings.retryCount + 2) ≤
      limit) (batches : List (List String)) (number : Nat) (total : Int)
    (kept : List (List ServerAddress)) (browser : Browser) (history : History) :
    ∃ result pages since,
      listBatches client ((Script.scenario scripts ending cancel start).world cancellable).lift
          (Listener.recorder (m := Play)) limit number total batches kept browser history =
        (((result, kept ++ pages), browser), history ++ since) ∧
      History.Collected history.socketCount since pages ∧
      ComesTo client ((Script.scenario scripts ending cancel start).world cancellable).lift limit
        browser history since batches (total + pages.flatten.length) result := by
  induction batches generalizing number total kept history with
  | nil =>
      refine ⟨.ok total, [], [], ?_, History.collected_nil _, by simp, rfl, by simp⟩
      rw [List.append_nil, List.append_nil]
      rfl
  | cons batch rest ih =>
      obtain ⟨announced, hstarted, hannounced⟩ : ∃ announced : History,
          batchStarted client number batch history = history ++ announced ∧ announced.Said :=
        ⟨_, rfl, History.said_logged _⟩
      have hfirst : (history ++ announced).socketCount = history.socketCount := by
        rw [History.socketCount_append, hannounced.silent.socketCount, Nat.add_zero]
      obtain ⟨listed, pages, more, hrun, hmore⟩ := Listing.run_gathers
        ⟨client.master, batch, client.settings⟩ scripts ending cancel start cancellable limit kept
        browser (history ++ announced) (hlimit _)
      rw [hfirst] at hmore
      rw [← hstarted] at hrun
      cases listed with
      | error fault =>
          have hnone := History.collected_nil (history.socketCount + 1)
          have hcollected := hnone.cons hannounced hmore
          rw [List.append_nil pages] at hcollected
          refine ⟨.error fault, pages, announced ++ more ++ [], ?_, hcollected, 0, ?_, by simp, ?_,
            batch, announced, kept, rfl, ?_, hannounced.silent.socketCount, ?_⟩
          · rw [List.append_nil, ← List.append_assoc, ← hstarted]
            exact keep_listBatches_of_error hrun
          · exact History.socketCount_cons [] hannounced hmore
          · rw [Nat.add_zero, isComplete_first hannounced hnone]
            exact hmore.ends
          · rw [List.append_assoc]
            exact List.prefix_append announced _
          · rw [← hstarted, hrun]
      | ok state =>
          obtain ⟨hcounted, hcomplete⟩ := hmore.ends
          have hnext : (history ++ announced ++ more).socketCount = history.socketCount + 1 := by
            rw [History.socketCount_append, hfirst, hmore.socketCount]
          obtain ⟨result, pages', since, hplay, hcollected, hcomesTo⟩ := ih (number + 1)
            (total + state.serversDelivered) (kept ++ pages) (history ++ announced ++ more)
          rw [hnext] at hcollected
          have hsum : total + state.serversDelivered + pages'.flatten.length =
              total + (pages ++ pages').flatten.length := by
            rw [hcounted, List.flatten_append, List.length_append]
            omega
          rw [hsum] at hcomesTo
          refine ⟨result, pages ++ pages', announced ++ more ++ since, ?_,
            hcollected.cons hannounced hmore,
            hcomesTo.cons hannounced hmore hcomplete hcollected⟩
          rw [keep_listBatches_of_ok hrun, hstarted, hplay]
          simp only [List.append_assoc]

/-! ## whole queries -/

theorem said_ending (result : Except Fault Int) : History.Said (ending result) := by
  cases result with
  | ok total => exact History.said_logged [_]
  | error fault => simp [ending, History.Said]

/-- What is said in the end changes nothing about how the listings have ended. -/
theorem ComesTo.said {client : Client}
    {world : Surroundings (StateT (List (List ServerAddress)) Play) Nat} {limit : Nat}
    {browser : Browser} {history since said : History} {batches : List (List String)} {sum : Int}
    {result : Except Fault Int}
    (h : ComesTo client world limit browser history since batches sum result)
    (hsaid : said.Said) :
    ComesTo client world limit browser history (since ++ said) batches sum result := by
  have hcount : (since ++ said).socketCount = since.socketCount := by
    rw [History.socketCount_append, hsaid.silent.socketCount, Nat.add_zero]
  have hdecoded (socket : Nat) : (since ++ said).decoded socket = since.decoded socket := by
    rw [History.decoded_append, hsaid.silent.decoded, List.append_nil]
  cases result with
  | ok total => simpa only [ComesTo, Ends, hcount, History.IsComplete, hdecoded] using h
  | error fault =>
      obtain ⟨k, hopened, hbefore, hincomplete, batch, front, kept, hbatch, hfront, hk, hrun⟩ := h
      refine ⟨k, by rw [hcount, hopened], ?_, ?_, batch, front, kept, hbatch,
        hfront.trans (List.prefix_append _ _), hk, hrun⟩
      · simpa only [History.IsComplete, hdecoded] using hbefore
      · simpa only [History.IsComplete, hdecoded] using hincomplete

/-- Collecting the servers gives those of all pages that are kept, in one list. -/
theorem queryAll_of_query {client : Client} {world : Surroundings Play Nat} {limit : Nat}
    {browser browser' : Browser} {history history' : History} {result : Except Fault Int}
    {pages : List (List ServerAddress)}
    (h : (query client world.lift (Listener.recorder (m := Play)) limit : StateT _ Play _) []
      browser history = (((result, pages), browser'), history')) :
    (queryAll client world limit : Play _) browser history =
      ((result.map fun _ => pages.flatten, browser'), history') := by
  have hworld (batch : List String) :
      (world.lift : Surroundings (StateT (List (List ServerAddress)) Play) Nat).Corresponds
        (Correspondence.along List.flatten) ⟨client.master, batch, client.settings⟩ world.lift :=
    Surroundings.corresponds_lift (fun action kept => by simp) _ world
  have hrelated : (Correspondence.along List.flatten).Rel
      (query client world.lift (Listener.recorder (m := Play)) limit)
      (query client world.lift (collector (m := Play)) limit) :=
    Correspondence.rel_query client (fun _ => rfl) (fun _ _ => rfl)
      (fun batch => (hworld batch).matches) (Correspondence.connects_of_rel fun kept => rfl)
      (fun page kept => by simp [Listener.recorder, collector]) limit
  have hmapped : ((fun kept : Except Fault Int × List (List ServerAddress) =>
      (kept.1, kept.2.flatten)) <$>
        (query client world.lift (Listener.recorder (m := Play)) limit).run [] : Play _) browser
          history = (((result, pages.flatten), browser'), history') := by
    rw [map_eq_pure_bind]
    exact play_bind h
  have hcollects : (query client world.lift (collector (m := Play)) limit).run [] browser history =
      (((result, pages.flatten), browser'), history') :=
    (congrFun (congrFun (hrelated []) browser) history).trans hmapped
  rw [queryAll]
  exact play_bind hcollects

/-- **Nothing is lost in a query, and nothing is made up.**  Over the sockets of any scripts, a
listener that keeps its pages is given the pages of all packets that are decoded, batch after batch,
each once.  The total of a query that succeeds is the number of servers on these pages; it has
opened one socket for each batch, and the last page of each of them was decoded.  A query that fails
has listed all batches before the one that fails, and opens no socket after that one.  Collecting the
servers goes the same way, and gives those of the pages in one list. -/
theorem query_conserves (client : Client) (scripts : List Script) (ending : Script.Ending)
    (cancel : CancelScript) (start : Nat) (cancellable : Bool) (limit : Nat) (browser : Browser)
    (history : History) (hleast : 2 ≤ limit)
    (hlimit : ∀ script ∈ scripts,
      2 + script.receives.length * (client.settings.retryCount + 2) ≤ limit) :
    ∃ result pages since,
      (query client ((Script.scenario scripts ending cancel start).world cancellable).lift
          (Listener.recorder (m := Play)) limit : StateT _ Play _) [] browser history =
        (((result, pages), { browser with querying := false }), history ++ since) ∧
      (queryAll client ((Script.scenario scripts ending cancel start).world cancellable) limit :
          Play _) browser history =
        ((result.map fun _ => pages.flatten, { browser with querying := false }),
          history ++ since) ∧
      pages = ((List.range since.socketCount).flatMap fun k =>
        (since.decoded (history.socketCount + k)).map Page.servers) ∧
      (browser.filters = [] → since.socketCount = 1) ∧
      ComesTo client ((Script.scenario scripts ending cancel start).world cancellable).lift limit
        { browser with querying := true } history since
        (Filter.batches client.settings.filterBudget browser.filters) pages.flatten.length
        result := by
  have hsupply : ∀ socket,
      2 + Script.supply scripts socket [] * (client.settings.retryCount + 2) ≤ limit := by
    intro socket
    cases hscript : scripts[socket]? with
    | none => simpa [Script.supply, hscript] using hleast
    | some script =>
        have hin := hlimit script (List.mem_of_getElem? hscript)
        simpa [Script.supply, hscript, History.awaitCount] using hin
  obtain ⟨result, pages, since, hplay, hcollected, hcomesTo⟩ := listBatches_conserves client
    scripts ending cancel start cancellable limit hsupply
    (Filter.batches client.settings.filterBudget browser.filters) 1 0 []
    { browser with querying := true } history
  have hquery := keep_query hplay
  rw [List.append_assoc, List.nil_append] at hquery
  rw [Int.zero_add] at hcomesTo
  have hsaid := said_ending result
  have hcomesTo := hcomesTo.said hsaid
  refine ⟨result, pages, since ++ Browser.ending result, hquery, queryAll_of_query hquery,
    (hcollected.said hsaid).delivered, ?_, hcomesTo⟩
  intro hnone
  have hbatches : Filter.batches client.settings.filterBudget browser.filters = [[]] := by
    rw [hnone]
    rfl
  rw [hbatches] at hcomesTo
  cases result with
  | ok total => exact hcomesTo.2.1
  | error fault =>
      obtain ⟨k, hfails⟩ := hcomesTo
      obtain ⟨batch, _, _, hbatch, -⟩ := hfails.raised
      have hk : k < 1 := (List.getElem?_eq_some_iff.1 hbatch).1
      rw [hfails.opened, Nat.lt_one_iff.1 hk]

/-- Two sockets: the first gives a server, loses a packet and comes to its end, the second fails. -/
def endAndFailure : List Script :=
  [{ receives := [
      .ok (Response.header ++ [1, 2, 3, 4, 105, 135]),
      .error (.raised .transport "lost"),
      .ok (Response.header ++ [0, 0, 0, 0, 0, 0])] },
    { receives := [
      .ok (Response.header ++ [5, 6, 7, 8, 0, 80]),
      .ok [0xFF]] }]

/-- Two batches, of which the second fails after a page. -/
theorem query_conserves_endAndFailure :
    ∃ result pages since,
      (query ⟨.text "master:27011", { filterBudget := 8 }⟩
          ((Script.scenario endAndFailure .direct).world false).lift
          (Listener.recorder (m := Play)) 20 : StateT _ Play _) []
          ⟨["\\a\\1", "\\b\\2"], false⟩ [] =
        (((result, pages), ⟨["\\a\\1", "\\b\\2"], false⟩), since) ∧
      (queryAll ⟨.text "master:27011", { filterBudget := 8 }⟩
          ((Script.scenario endAndFailure .direct).world false) 20 : Play _)
          ⟨["\\a\\1", "\\b\\2"], false⟩ [] =
        ((result.map fun _ => pages.flatten, ⟨["\\a\\1", "\\b\\2"], false⟩), since) ∧
      pages = ((List.range since.socketCount).flatMap fun k =>
        (since.decoded k).map Page.servers) ∧
      ComesTo ⟨.text "master:27011", { filterBudget := 8 }⟩
        ((Script.scenario endAndFailure .direct).world false).lift 20
        ⟨["\\a\\1", "\\b\\2"], true⟩ [] since (Filter.batches 8 ["\\a\\1", "\\b\\2"])
        pages.flatten.length result := by
  obtain ⟨result, pages, since, hquery, hall, hpages, -, hcomesTo⟩ :=
    query_conserves ⟨.text "master:27011", { filterBudget := 8 }⟩ endAndFailure .direct {} 0 false
      20 ⟨["\\a\\1", "\\b\\2"], false⟩ [] (by decide) (by decide)
  have hzero : History.socketCount [] = 0 := rfl
  simp only [hzero, Nat.zero_add] at hpages
  exact ⟨result, pages, since, hquery, hall, hpages, hcomesTo⟩

end Browser

end ServerBrowser
