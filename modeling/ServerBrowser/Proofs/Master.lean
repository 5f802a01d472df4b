import ServerBrowser.Proofs.Query
import ServerBrowser.Proofs.Response
import ServerBrowser.Proofs.Scenario
import ServerBrowser.Scenario.Behaviour

/-!
# ServerBrowser.Proofs.Master

The other side of a listing: a master server with a registry of game servers.  An honest master
reads the cursor off a query and answers with a run of the servers that follow it:

```
servers = before ++ run ++ rest       the cursor is the last of `before`, or null when that is empty
```

How long the run is, and whether the null record closes it at the end of the registry, is for the
master to choose.  The page that a client decodes is that run (`Answers.parse`).
-/

namespace ServerBrowser

/-- A master server: the game servers it lists, each once, in the order in which it lists them. -/
structure Master where
  servers : List ServerAddress
  nodup : servers.Nodup
  listed : Response.Listed servers

namespace Master

/-- The cursor behind the servers that were listed already: the last of them, and the null address
before any was. -/
def cursorAfter (before : List ServerAddress) : ServerAddress :=
  before.getLast?.getD .null

/-- What an honest master may answer to a query for what follows one of its servers, or for the
beginning: a run of the servers that follow.  The run is empty only where none is left; the null
record closes the page only where the run goes to the end, and always where the run is empty. -/
def Answers (master : Master) (request reply : List UInt8) : Prop :=
  ∀ before after, master.servers = before ++ after →
    Query.cursor? request = some (cursorAfter before) →
    ∃ run rest isLast, after = run ++ rest ∧ (run = [] → rest = [] ∧ isLast = true) ∧
      (isLast = true → rest = []) ∧ Response.ofPage ⟨run, isLast⟩ = .ok reply

variable {master : Master} {before after : List ServerAddress}

theorem isRecord_cursorAfter (h : master.servers = before ++ after) :
    (cursorAfter before).IsRecord := by
  cases hlast : before.getLast? with
  | none => simpa [cursorAfter, hlast] using ServerAddress.isRecord_null
  | some server =>
      have hmem : server ∈ master.servers := by
        rw [h]
        exact List.mem_append_left _ (List.mem_of_getLast? hlast)
      simpa [cursorAfter, hlast] using (master.listed server hmem).1

/-- A client decodes an answer as the run of servers that the master chose. -/
theorem Answers.parse {request reply : List UInt8} (h : master.Answers request reply)
    (hsplit : master.servers = before ++ after)
    (hcursor : Query.cursor? request = some (cursorAfter before)) :
    ∃ run rest isLast, after = run ++ rest ∧ (run = [] → rest = [] ∧ isLast = true) ∧
      (isLast = true → rest = []) ∧ Response.parse reply = .ok ⟨run, isLast⟩ := by
  obtain ⟨run, rest, isLast, hrun, hempty, hend, hreply⟩ := h before after hsplit hcursor
  have hlisted : Response.Listed run := fun server hserver =>
    master.listed server (by rw [hsplit, hrun]; simp [hserver])
  exact ⟨run, rest, isLast, hrun, hempty, hend,
    Response.parse_ofPage hlisted hreply fun hnil => (hempty hnil).2⟩

/-! ## a master that answers -/

/-- What follows a server among those of a master. -/
def following (master : Master) (cursor : ServerAddress) : List ServerAddress :=
  if cursor = .null then master.servers else (master.servers.dropWhile (· != cursor)).tail

theorem following_cursorAfter (h : master.servers = before ++ after) :
    master.following (cursorAfter before) = after := by
  cases hlast : before.getLast? with
  | none =>
      rw [List.getLast?_eq_none_iff] at hlast
      subst hlast
      rw [following, if_pos (by simp [cursorAfter]), h, List.nil_append]
  | some last =>
      obtain ⟨front, rfl⟩ := List.getLast?_eq_some_iff.1 hlast
      have hcursor : cursorAfter (front ++ [last]) = last := by simp [cursorAfter]
      have hmem : last ∈ master.servers := by rw [h]; simp
      have hnodup := master.nodup
      rw [h, List.append_assoc, List.nodup_append] at hnodup
      have hfront : ∀ server ∈ front, (server != last) = true := fun server hserver =>
        bne_iff_ne.2 (hnodup.2.2 server hserver last (by simp))
      rw [hcursor, following, if_neg (master.listed last hmem).2, h, List.append_assoc,
        List.dropWhile_append_of_pos hfront]
      simp

/-- The answer of a master that puts one server on each page. -/
def reply (master : Master) (request : List UInt8) : List UInt8 :=
  match Query.cursor? request with
  | none => []
  | some cursor =>
    match Response.ofPage ⟨(master.following cursor).take 1,
        (master.following cursor).length ≤ 1⟩ with
    | .error _ => []
    | .ok packet => packet

/-- A master that puts one server on each page is honest. -/
theorem answers_reply (master : Master) (request : List UInt8) :
    master.Answers request (master.reply request) := by
  intro before after hsplit hcursor
  have hlisted : Response.Listed (after.take 1) := fun server hserver =>
    master.listed server (by rw [hsplit]; simp [List.mem_of_mem_take hserver])
  obtain ⟨packet, hpacket⟩ : ∃ packet,
      Response.ofPage ⟨after.take 1, after.length ≤ 1⟩ = .ok packet :=
    Response.ofPage_of_listed hlisted
  refine ⟨after.take 1, after.drop 1, after.length ≤ 1, (List.take_append_drop 1 after).symm, ?_,
    ?_, ?_⟩
  · intro hnil
    have hafter : after = [] := by simpa using hnil
    simp [hafter]
  · intro hlast
    have hlength : after.length ≤ 1 := by simpa using hlast
    exact List.drop_eq_nil_of_le hlength
  · rw [reply, hcursor]
    simp only [following_cursorAfter hsplit, hpacket]

/-- A master of two servers. -/
def pair : Master where
  servers := [⟨"1.2.3.4", 27015⟩, ⟨"5.6.7.8", 80⟩]
  nodup := by decide
  listed := by
    simp only [Response.Listed, List.forall_mem_cons]
    refine ⟨⟨⟨1, 2, 3, 4, 105, 135, ?_⟩, by decide⟩, ⟨⟨5, 6, 7, 8, 0, 80, ?_⟩, by decide⟩, by simp⟩
    · decide
    · decide

end Master

/-- A listener that notes each page and hands it back as it is.  What else it does is not seen on
the socket of the listing, and is no page of the listing. -/
def Listener.Reads (listener : Listener Scenario.Play) (socket : Nat) : Prop :=
  ∀ page browser history, ∃ browser' more,
    listener page browser history = ((.ok page, browser'), history ++ [.paged page] ++ more) ∧
      History.Quiet socket more

/-- A page handed to such a listener is a page of the traffic, and is what the listener leaves. -/
theorem Listener.Reads.traffic {listener : Listener Scenario.Play} {socket : Nat}
    {page : List ServerAddress} {result : Except Fault (List ServerAddress)}
    {browser browser' : Browser} {history history' : History} (h : listener.Reads socket)
    (hplay : listener page browser history = ((result, browser'), history')) :
    result = .ok page ∧ history'.traffic socket = { history.traffic socket with
      pages := (history.traffic socket).pages ++ [page] } := by
  obtain ⟨browser'', more, hreads, hquiet⟩ := h page browser history
  cases hreads.symm.trans hplay
  rw [History.traffic_append_quiet hquiet]
  exact ⟨rfl, History.traffic_paged _ _ page⟩

/-- The listener that notes each page and does the same with all of them. -/
def Listener.always (actions : List Action) : Listener Scenario.Play :=
  Behaviour.listener (fun _ => actions) (fun _ => pure (.error .exhausted)) 0

/-- A listener that does nothing but note the pages reads them. -/
theorem Listener.reads_always (socket : Nat) : (Listener.always []).Reads socket :=
  fun page browser history =>
    ⟨browser, [], by rw [List.append_nil]; rfl, by simp [History.Quiet]⟩

end ServerBrowser
