import ServerBrowser.Proofs.Browser.Lock
import ServerBrowser.Proofs.Browser.Sessions
import ServerBrowser.Proofs.Filter.Fewest

/-!
# ServerBrowser.Proofs.Browser.Passes

How many passes a query makes.  Each batch is listed in a pass of its own, over a socket of its own,
so a query that succeeds makes as many passes as there are batches, and one that fails no more
(`length_overhear`).  Fewer would not do for the budget that there is, and a larger budget does not
take more (`passes_fewest`).
-/

namespace ServerBrowser.Browser

open Scenario

variable {S T : Type}

/-- What a query gives, and what it has said over each socket that it has asked for. -/
def overhear (client : Client) (world : Surroundings Play S) (listener : Listener Play)
    (limit : Nat) (browser : Browser) (history : History) : Except Fault Int × Conversations :=
  ((query client world.overheard listener.lift limit : StateT Conversations Play _) [] browser
    history).1.1

/-- A query that is overheard gives what it gives. -/
theorem fst_overhear (client : Client) (world : Surroundings Play S) (listener : Listener Play)
    (limit : Nat) (browser : Browser) (history : History) :
    (overhear client world listener limit browser history).1 =
      ((query client world listener limit : Play _) browser history).1.1 :=
  congrArg (fun action : Play _ => (action browser history).1.1)
    (fst_map_query client world listener limit [])

theorem converses_overhear (client : Client) (world : Surroundings Play S)
    (listener : Listener Play) (limit : Nat) (browser : Browser) (history : History) :
    Converses client (Filter.batches client.settings.filterBudget browser.filters)
      (overhear client world listener limit browser history).2
      (overhear client world listener limit browser history).1 := by
  obtain ⟨rest, hquery, hrest⟩ := query_converses client world listener limit
  obtain ⟨sure, hsure⟩ := hrest browser [] rfl
  have hplay : (Subtype.val <$> sure) browser history =
      (query client world.overheard listener.lift limit : StateT Conversations Play _) [] browser
        history := by
    rw [hquery]
    exact congrFun (congrFun hsure browser) history
  rw [overhear, ← hplay]
  exact (sure browser history).1.1.property

/-- A row of batches is talked about in no more conversations than there are batches, and in as many
if all of them are listed. -/
theorem Converses.length {client : Client} {batches : List (List String)} {talks : Conversations}
    {result : Except Fault Int} (h : Converses client batches talks result) :
    talks.length ≤ batches.length ∧
      ((∃ total, result = .ok total) → talks.length = batches.length) := by
  cases result with
  | ok total =>
      have hlength := List.Forall₂.length_eq h
      exact ⟨Nat.le_of_eq hlength.symm, fun _ => hlength.symm⟩
  | error fault =>
      obtain ⟨listed, batch, rest, before, packets, rfl, rfl, hlisted, -⟩ := h
      have hlength := hlisted.length_eq
      refine ⟨?_, by simp⟩
      simp only [List.length_append, List.length_cons, List.length_nil]
      omega

/-- **A query makes a pass for each batch.** -/
theorem length_overhear (client : Client) (world : Surroundings Play S) (listener : Listener Play)
    (limit : Nat) (browser : Browser) (history : History) :
    (overhear client world listener limit browser history).2.length ≤
        (Filter.batches client.settings.filterBudget browser.filters).length ∧
      ((∃ total, (overhear client world listener limit browser history).1 = .ok total) →
        (overhear client world listener limit browser history).2.length =
          (Filter.batches client.settings.filterBudget browser.filters).length) :=
  (converses_overhear client world listener limit browser history).length

/-- **No fewer passes would do, and a larger budget does not take more.**  However tokens are cut,
in their order, into groups that may be batches, there are at least as many groups as batches.  A
larger budget makes no more batches, and so a query with a larger budget, in whatever world and
however it ends, asks for no more sockets than one that succeeds, which lists each of its batches
over a socket of its own. -/
theorem passes_fewest (budget : Int) (tokens : List String) :
    (tokens ≠ [] → ∀ groups : List (List String), groups.flatten = tokens →
      (∀ group ∈ groups, Filter.Admissible budget group) →
        (Filter.batches budget tokens).length ≤ groups.length) ∧
    (∀ larger, budget ≤ larger →
      (Filter.batches larger tokens).length ≤ (Filter.batches budget tokens).length) ∧
    ∀ (client client' : Client) (world : Surroundings Play S) (world' : Surroundings Play T)
      (listener listener' : Listener Play) (limit limit' : Nat) (browser browser' : Browser)
      (history history' : History),
      client.settings.filterBudget = budget → budget ≤ client'.settings.filterBudget →
      browser.filters = tokens → browser'.filters = tokens →
      (∃ total, (query client world listener limit browser history).1.1 = .ok total) →
        (overhear client world listener limit browser history).2.length =
            (Filter.batches budget tokens).length ∧
          (overhear client' world' listener' limit' browser' history').2.length ≤
            (overhear client world listener limit browser history).2.length := by
  refine ⟨fun htokens groups => Filter.length_batches_le htokens,
    fun larger hlarger => Filter.length_batches_mono hlarger tokens, ?_⟩
  rintro client client' world world' listener listener' limit limit' browser browser' history
    history' rfl hlarger rfl hfilters hsucceeds
  have hpasses := (length_overhear client world listener limit browser history).2
    (by rwa [fst_overhear])
  refine ⟨hpasses, ?_⟩
  have hpasses' := (length_overhear client' world' listener' limit' browser' history').1
  have hmono := Filter.length_batches_mono hlarger browser.filters
  rw [hfilters] at hpasses'
  rw [hpasses]
  exact Nat.le_trans hpasses' hmono

/-- Two filters that take two passes with room for one of them, and no more with room for both. -/
theorem passes_fewest_twoFilters :
    (Filter.batches 8 ["\\a\\1", "\\b\\2"]).length ≤ [["\\a\\1"], ["\\b\\2"]].length ∧
      (Filter.batches 9 ["\\a\\1", "\\b\\2"]).length ≤
        (Filter.batches 8 ["\\a\\1", "\\b\\2"]).length ∧
      (overhear ⟨.text "master:27011", { filterBudget := 9 }⟩ (lastPages.world false)
          (fun page => pure (.ok page)) 4 ⟨["\\a\\1", "\\b\\2"], false⟩ []).2.length ≤
        (overhear ⟨.text "master:27011", { filterBudget := 8 }⟩ (lastPages.world false)
          (fun page => pure (.ok page)) 4 ⟨["\\a\\1", "\\b\\2"], false⟩ []).2.length := by
  obtain ⟨hgroups, hmono, hpasses⟩ :=
    passes_fewest (S := Nat) (T := Nat) 8 ["\\a\\1", "\\b\\2"]
  refine ⟨hgroups (by simp) _ rfl ?_, hmono 9 (by decide), ?_⟩
  · intro group hgroup
    obtain rfl | rfl : group = ["\\a\\1"] ∨ group = ["\\b\\2"] := by simpa using hgroup
    · exact ⟨by simp, .inr ⟨_, rfl⟩⟩
    · exact ⟨by simp, .inr ⟨_, rfl⟩⟩
  · exact (hpasses _ _ _ _ _ _ _ _ _ _ _ _ rfl (by decide) rfl rfl ⟨0, by decide +kernel⟩).2

end ServerBrowser.Browser
