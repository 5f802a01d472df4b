import ServerBrowser.Proofs.Listing.Acts
import ServerBrowser.Proofs.Master
import ServerBrowser.Proofs.Response
import ServerBrowser.Scenario.Script

/-!
# ServerBrowser.Proofs.Listing.Retries

When a listing tries again.  Without a cancel signal the acts of a listing are a first attempt and
then, page by page, rounds:

```
acts   =  first attempt · round · round · …
round  =  page · (delay · attempt) · … · (delay · attempt)
```

The first attempt is made once.  Between two pages attempts are made up to the first that is not
lost in the transport, and at most one more than the settings allow retries (`Stretch`); each page
starts with all of them.  `Course` says how rounds follow each other and how they end, and
`run_whole` that every run is of this kind, whatever is sent, lost or received.
-/

namespace ServerBrowser.Listing

open Scenario

/-- How a listing comes to its end. -/
inductive Finish where
  | done
  | failed (fault : Fault)
  /-- The steps were used up. -/
  | cut
deriving DecidableEq

/-- What a listing gives that ends in this way. -/
def Finish.result : Finish → Except Fault Phase
  | done => .ok .done
  | failed fault => .error fault
  | cut => .error .exhausted

/-! ## rounds -/

/-- What is done about a page: it is handed to the listener, who may refuse it, and attempts are
made to get the next one. -/
structure Round where
  page : List ServerAddress
  refusal : Option Fault
  attempts : List Attempt

/-- What is done to get the next page: a delay before each attempt. -/
def attemptActs (listing : Listing) (socket : Nat) (attempts : List Attempt) : List Act :=
  attempts.flatMap fun attempt => .slept listing.settings.retryDelay :: attempt.acts socket

def Round.acts (listing : Listing) (socket : Nat) (round : Round) : List Act :=
  .paged round.page round.refusal :: listing.attemptActs socket round.attempts

/-- What is done in rounds, one after the other. -/
def roundActs (listing : Listing) (socket : Nat) (rounds : List Round) : List Act :=
  rounds.flatMap (Round.acts listing socket)

/-- Whether all attempts send the query for what follows the last server of a page. -/
def AskAfter (listing : Listing) (page : Page) (attempts : List Attempt) : Prop :=
  ∃ cursor packet, page.servers.getLast? = some cursor ∧
    (listing.query cursor).toBytes = .ok packet ∧ ∀ attempt ∈ attempts, attempt.packet = packet

/-- The attempts between two pages, or between the last page and a failure: all send the same
packet, and one is followed by another exactly if it is lost in the transport and there are retries
left. -/
structure Stretch (listing : Listing) (page : Page) (attempts : List Attempt) : Prop where
  alike : listing.AskAfter page attempts
  nonempty : attempts ≠ []
  bounded : attempts.length ≤ listing.settings.retryCount + 1
  again : ∀ before attempt after, attempts = before ++ attempt :: after →
    (after ≠ [] ↔ attempt.isLost = true ∧ before.length + 1 < listing.settings.retryCount + 1)

/-- The attempts after which another one follows. -/
structure Tried (listing : Listing) (page : Page) (attempts : List Attempt) : Prop where
  alike : listing.AskAfter page attempts
  bounded : attempts.length ≤ listing.settings.retryCount
  lost : ∀ attempt ∈ attempts, attempt.isLost = true

/-- The rounds of a listing that is to deliver a page, and how it comes to its end. -/
inductive Course (listing : Listing) : Page → List Round → Finish → Prop
  /-- The steps are used up before the page is delivered. -/
  | undelivered {page : Page} : Course listing page [] .cut
  /-- The listener refuses the page. -/
  | refused {page : Page} (fault : Fault) :
    Course listing page [⟨page.servers, some fault, []⟩] (.failed (.listenerFailed fault))
  /-- The page is the last one. -/
  | finished {page : Page} (last : page.isLast = true) :
    Course listing page [⟨page.servers, none, []⟩] .done
  /-- The steps are used up before the next page is there. -/
  | interrupted {page : Page} {attempts : List Attempt} (more : page.isLast = false)
    (tried : listing.Tried page attempts) :
    Course listing page [⟨page.servers, none, attempts⟩] .cut
  /-- The last attempt gets no page. -/
  | failed {page : Page} {attempts : List Attempt} {last : Attempt} {fault : Fault}
    (more : page.isLast = false) (stretch : listing.Stretch page (attempts ++ [last]))
    (failure : last.page = .error fault) :
    Course listing page [⟨page.servers, none, attempts ++ [last]⟩] (.failed fault)
  /-- The last attempt gets the next page. -/
  | continued {page next : Page} {attempts : List Attempt} {last : Attempt} {rounds : List Round}
    {finish : Finish} (more : page.isLast = false)
    (stretch : listing.Stretch page (attempts ++ [last])) (decoded : last.page = .ok next)
    (rest : Course listing next rounds finish) :
    Course listing page (⟨page.servers, none, attempts ++ [last]⟩ :: rounds) finish

variable {listing : Listing} {page : Page} {attempts : List Attempt} {attempt : Attempt}

theorem Tried.alike_concat (h : listing.Tried page attempts) {cursor : ServerAddress}
    (hlast : page.servers.getLast? = some cursor)
    (hquery : (listing.query cursor).toBytes = .ok attempt.packet) :
    listing.AskAfter page (attempts ++ [attempt]) := by
  obtain ⟨cursor', packet, hcursor, hpacket, halike⟩ := h.alike
  obtain rfl := Option.some.inj (hcursor.symm.trans hlast)
  have hsame : packet = attempt.packet := Except.ok.inj (hpacket.symm.trans hquery)
  refine ⟨cursor', packet, hcursor, hpacket, ?_⟩
  intro other hother
  obtain hother | hother := List.mem_append.1 hother
  · exact halike other hother
  · rw [List.mem_singleton.1 hother, hsame]

/-- An attempt that is lost while there are retries left is followed by another one. -/
theorem Tried.concat (h : listing.Tried page attempts)
    (halike : listing.AskAfter page (attempts ++ [attempt])) (hlost : attempt.isLost = true)
    (hleft : attempts.length < listing.settings.retryCount) :
    listing.Tried page (attempts ++ [attempt]) where
  alike := halike
  bounded := by
    rw [List.length_append]
    exact hleft
  lost := by
    intro other hother
    obtain hother | hother := List.mem_append.1 hother
    · exact h.lost other hother
    · rw [List.mem_singleton.1 hother, hlost]

/-- An attempt that is not lost, or after which no retry is left, is the last one. -/
theorem Tried.stretch (h : listing.Tried page attempts)
    (halike : listing.AskAfter page (attempts ++ [attempt]))
    (hfinal : ¬ (attempt.isLost = true ∧ attempts.length < listing.settings.retryCount)) :
    listing.Stretch page (attempts ++ [attempt]) where
  alike := halike
  nonempty := by simp
  bounded := by simpa using h.bounded
  again := by
    intro before other after hsplit
    obtain rfl | ⟨after', last, rfl⟩ := List.eq_nil_or_concat after
    · obtain ⟨rfl, hsame⟩ := List.append_inj' hsplit rfl
      obtain rfl := List.singleton_inj.1 hsame
      have hlast : ¬ (attempt.isLost = true ∧
          attempts.length + 1 < listing.settings.retryCount + 1) := by
        rwa [Nat.succ_lt_succ_iff]
      simpa using hlast
    · have hfront : attempts ++ [attempt] = (before ++ other :: after') ++ [last] := by
        simpa using hsplit
      obtain ⟨rfl, -⟩ := List.append_inj' hfront rfl
      have hbounded := h.bounded
      have hother := h.lost other (by simp)
      simp only [List.length_append, List.length_cons] at hbounded
      constructor
      · intro _
        exact ⟨hother, by omega⟩
      · simp

/-! ## how a listing comes to its end -/

variable {scenario : Scenario} {listener : Listener Play} {socket limit : Nat}
  {state next : State} {browser browser' : Browser} {history history' : History}
  {acts more : List Act} {finish : Finish}

/-- That the steps of a listing are the given acts, and come to the given end.  They are used up
only if there are at least as many acts as steps. -/
def Ends (listing : Listing) (scenario : Scenario) (listener : Listener Play) (socket limit : Nat)
    (state : State) (browser : Browser) (history : History) (acts : List Act) (finish : Finish) :
    Prop :=
  ∃ result browser' history',
    listing.steps (scenario.world false) listener socket limit state browser history =
      ((result, browser'), history') ∧
    listener.Acts scenario browser history acts browser' history' ∧
    (result.bind outcome).map State.phase = finish.result ∧
    (finish = .cut → limit ≤ acts.length)

theorem ends_cut (h : state.isFinished = false) :
    Ends listing scenario listener socket 0 state browser history [] .cut :=
  ⟨_, _, _, steps_zero h, .nil, rfl, fun _ => Nat.le_refl 0⟩

/-- The steps after a step go on from where it leads. -/
theorem Ends.step (h : Ends listing scenario listener socket limit next browser' history' more
      finish) (hfinished : state.isFinished = false)
    (hstep : listing.step (scenario.world false) listener socket state browser history =
      ((.ok next, browser'), history'))
    (hacts : listener.Acts scenario browser history acts browser' history')
    (hlength : 0 < acts.length) :
    Ends listing scenario listener socket (limit + 1) state browser history (acts ++ more)
      finish := by
  obtain ⟨result, browser'', history'', hsteps, hmore, hresult, hlimit⟩ := h
  have hall := (steps_of_ok hfinished hstep).trans hsteps
  refine ⟨result, browser'', history'', hall, hacts.append hmore, hresult, ?_⟩
  intro hcut
  have hle := hlimit hcut
  rw [List.length_append]
  omega

/-- A listing that is done ends there. -/
theorem ends_done (hfinished : state.isFinished = false) (phase : next.phase = .done)
    (hstep : listing.step (scenario.world false) listener socket state browser history =
      ((.ok next, browser'), history'))
    (hacts : listener.Acts scenario browser history acts browser' history') :
    Ends listing scenario listener socket (limit + 1) state browser history acts .done := by
  have hdone : next.isFinished = true := by simp [State.isFinished, phase]
  have hall : listing.steps (scenario.world false) listener socket (limit + 1) state browser
      history = ((.ok next, browser'), history') := by
    rw [steps_of_ok hfinished hstep, steps_of_finished hdone]
  refine ⟨_, _, _, hall, hacts, ?_, by simp⟩
  simp [Except.bind, Except.map, outcome, phase, Finish.result]

/-- A listing that meets a fault ends with it, whether it belongs to the family or not. -/
theorem ends_failed {fault : Fault} (hfinished : state.isFinished = false)
    (hstep : listing.step (scenario.world false) listener socket state browser history =
      ((state.afterFault fault, browser'), history'))
    (hacts : listener.Acts scenario browser history acts browser' history') :
    Ends listing scenario listener socket (limit + 1) state browser history acts
      (.failed fault) := by
  cases hfamily : fault.inFamily with
  | true =>
      rw [State.afterFault, if_pos hfamily] at hstep
      have hall : listing.steps (scenario.world false) listener socket (limit + 1) state browser
          history = ((.ok (state.endedBy fault), browser'), history') := by
        rw [steps_of_ok hfinished hstep]
        exact steps_of_finished rfl
      exact ⟨_, _, _, hall, hacts, rfl, by simp⟩
  | false =>
      rw [State.afterFault, if_neg (by simp [hfamily])] at hstep
      exact ⟨_, _, _, steps_of_error hfinished hstep, hacts, rfl, by simp⟩

/-! ## page by page -/

/-- That a listing which is to deliver a page goes through rounds. -/
def Delivers (listing : Listing) (scenario : Scenario) (listener : Listener Play)
    (socket limit : Nat) : Prop :=
  ∀ (state : State) (packet : List UInt8) (browser : Browser) (history : History),
    state.phase = .delivering → Response.parse packet = .ok state.page →
    ∃ rounds finish, Course listing state.page rounds finish ∧
      Ends listing scenario listener socket limit state browser history
        (listing.roundActs socket rounds) finish

/-- That a listing which has tried to get the page after another one goes on to try, and then goes
through rounds. -/
def Continues (listing : Listing) (scenario : Scenario) (listener : Listener Play)
    (socket limit : Nat) : Prop :=
  ∀ (state : State) (page : Page) (tried : List Attempt) (packet : List UInt8) (browser : Browser)
    (history : History), state.phase = .continuing → page.isLast = false →
    page.servers.getLast? = some state.cursor →
    (listing.query state.cursor).toBytes = .ok packet → listing.Tried page tried →
    state.retriesLeft = (listing.settings.retryCount : Int) - tried.length →
    ∃ attempts rounds finish,
      Course listing page (⟨page.servers, none, tried ++ attempts⟩ :: rounds) finish ∧
      Ends listing scenario listener socket limit state browser history
        (listing.attemptActs socket attempts ++ listing.roundActs socket rounds) finish

theorem delivers_zero : Delivers listing scenario listener socket 0 := by
  intro state packet browser history phase hpage
  have hfinished : state.isFinished = false := by simp [State.isFinished, phase]
  exact ⟨[], .cut, .undelivered, ends_cut hfinished⟩

theorem continues_zero : Continues listing scenario listener socket 0 := by
  intro state page tried packet browser history phase hmore hlast hquery htried hleft
  have hfinished : state.isFinished = false := by simp [State.isFinished, phase]
  refine ⟨[], [], .cut, ?_, ends_cut hfinished⟩
  rw [List.append_nil]
  exact .interrupted hmore htried

/-- A page is refused, or is the last one, or is continued from with all retries. -/
theorem delivers_succ (hattends : listener.Attends)
    (hcontinues : Continues listing scenario listener socket limit) :
    Delivers listing scenario listener socket (limit + 1) := by
  intro state packet browser history phase hpage
  have hfinished : state.isFinished = false := by simp [State.isFinished, phase]
  obtain ⟨answer, browser', history', hlistens⟩ :=
    exists_play (listener state.page.servers) browser history
  obtain ⟨hacts, hleft⟩ := hattends.acts scenario hlistens
  have hstep : listing.step (scenario.world false) listener socket state browser history =
      ((state.settle (listing.handedBack state answer), browser'), history') :=
    step_deliver phase hlistens
  cases answer with
  | error fault =>
      exact ⟨[⟨state.page.servers, some fault, []⟩], _, .refused fault,
        ends_failed hfinished hstep hacts⟩
  | ok left =>
      obtain rfl := hleft left rfl
      rw [handedBack, settle_delivered] at hstep
      cases hend : state.page.isLast with
      | true =>
          rw [delivered_of_isLast _ hend] at hstep
          exact ⟨[⟨state.page.servers, none, []⟩], _, .finished hend,
            ends_done hfinished rfl hstep hacts⟩
      | false =>
          obtain ⟨hrecords, hservers⟩ := Response.parse_eq_ok hpage
          obtain ⟨last, hlast⟩ : ∃ last, state.page.servers.getLast? = some last :=
            ⟨_, List.getLast?_eq_some_getLast (hservers hend)⟩
          obtain ⟨request, hquery, -⟩ :=
            (listing.query last).cursor?_toBytes (hrecords last (List.mem_of_getLast? hlast)) rfl
          rw [delivered_of_getLast? hend hlast] at hstep
          have hnone : listing.Tried state.page [] :=
            ⟨⟨last, request, hlast, hquery, by simp⟩, by simp, by simp⟩
          obtain ⟨attempts, rounds, finish, hcourse, hends⟩ := hcontinues
            { state.counted state.page.servers with
              phase := .continuing
              cursor := last
              retriesLeft := listing.settings.retryCount
              lastFault := none }
            state.page [] request browser' history' rfl hend hlast hquery hnone (by simp)
          have hall := hends.step hfinished hstep hacts (by simp)
          exact ⟨⟨state.page.servers, none, attempts⟩ :: rounds, finish, hcourse, hall⟩

/-- Making an attempt ready is one act. -/
theorem acts_readied (listing : Listing) (scenario : Scenario) (listener : Listener Play)
    (browser : Browser) (history : History) :
    listener.Acts scenario browser history [.slept listing.settings.retryDelay] browser
      (listing.readied false history) := by
  have hnone : listener.Acts scenario browser history [] browser history := .nil
  rw [readied_false]
  exact hnone.slept listing.settings.retryDelay

/-- An attempt is lost and followed by another one, or it is the last one. -/
theorem continues_succ (hdelivers : Delivers listing scenario listener socket limit)
    (hcontinues : Continues listing scenario listener socket limit) :
    Continues listing scenario listener socket (limit + 1) := by
  intro state page tried packet browser history phase hmore hlast hquery htried hleft
  have hfinished : state.isFinished = false := by simp [State.isFinished, phase]
  obtain ⟨result, browser', history', hmove, hstep⟩ :=
    move_step listing scenario false listener socket state browser history
  have hready := acts_readied listing scenario listener browser history
  cases hmove with
  | beginStopped other | beginFailed other | begun other | awaitFailed other | awaited other
  | listenerFailed other | delivered other => cases phase.symm.trans other
  | rested ended => cases hfinished.symm.trans ended
  | pauseStopped _ set | proceedStopped _ _ set => cases set
  | @retried fault history' _ clear exchanges transport left =>
      obtain ⟨attempt, rfl, hresult, hacts⟩ := exchanges.attempt hquery browser
      have hlost : attempt.isLost = true := (Attempt.isLost_of_error hresult).trans transport
      have htried' := htried.concat (htried.alike_concat hlast hquery) hlost (by omega)
      obtain ⟨attempts, rounds, finish, hcourse, hends⟩ := hcontinues
        { state with retriesLeft := state.retriesLeft - 1, lastFault := some fault } page _ _
        browser (history' ++ [.logged (retryRecord state fault)]) phase hmore hlast hquery htried'
        (by simp; omega)
      have hlogged : History.Asides [.logged (retryRecord state fault)] :=
        History.asides_logged [_]
      have hall := hends.step hfinished hstep ((hready.append hacts).asides hlogged) (by simp)
      refine ⟨attempt :: attempts, rounds, finish, ?_, ?_⟩
      · rwa [List.append_cons]
      · simpa [attemptActs] using hall
  | @proceedFailed fault _ _ clear exchanges final =>
      obtain ⟨attempt, rfl, hresult, hacts⟩ := exchanges.attempt hquery browser
      have hpage : attempt.page = .error fault := by rw [Attempt.page, hresult]; rfl
      have hstretch := htried.stretch (htried.alike_concat hlast hquery) (by
        rw [Attempt.isLost_of_error hresult]
        intro hagain
        exact final ⟨hagain.1, by omega⟩)
      have hall : Ends listing scenario listener socket (limit + 1) state browser history _
          (.failed fault) := ends_failed hfinished hstep (hready.append hacts)
      refine ⟨[attempt], [], _, .failed hmore hstretch hpage, ?_⟩
      simpa [attemptActs, roundActs] using hall
  | @proceeded reply _ _ clear exchanges =>
      obtain ⟨attempt, rfl, hresult, hacts⟩ := exchanges.attempt hquery browser
      have hpage : attempt.page = Response.parse reply := by rw [Attempt.page, hresult]; rfl
      have hstretch := htried.stretch (htried.alike_concat hlast hquery) (by
        rw [Attempt.isLost, hresult]
        simp)
      have hdecoded := (hready.append hacts).asides (asides_decodeEvents state reply)
      cases hparse : Response.parse reply with
      | error fault =>
          rw [hparse] at hstep hpage
          have hall : Ends listing scenario listener socket (limit + 1) state browser history _
              (.failed fault) := ends_failed hfinished hstep hdecoded
          refine ⟨[attempt], [], _, .failed hmore hstretch hpage, ?_⟩
          simpa [attemptActs, roundActs] using hall
      | ok next =>
          rw [hparse] at hstep hpage
          obtain ⟨rounds, finish, hcourse, hends⟩ := hdelivers (state.withPage next) reply browser
            _ rfl hparse
          have hall := hends.step hfinished hstep hdecoded (by simp)
          refine ⟨[attempt], rounds, finish, .continued hmore hstretch hpage hcourse, ?_⟩
          simpa [attemptActs] using hall

/-- However many steps there are, a page leads to rounds. -/
theorem delivers_continues (hattends : listener.Attends) (limit : Nat) :
    Delivers listing scenario listener socket limit ∧
      Continues listing scenario listener socket limit := by
  induction limit with
  | zero => exact ⟨delivers_zero, continues_zero⟩
  | succ limit ih =>
      obtain ⟨hdelivers, hcontinues⟩ := ih
      exact ⟨delivers_succ hattends hcontinues, continues_succ hdelivers hcontinues⟩

/-! ## whole listings -/

/-- The acts of a whole listing: a first attempt that asks from the null address, and the rounds
from the page that it gets.  Without that page there is neither a round nor another attempt. -/
inductive Whole (listing : Listing) (socket : Nat) : List Act → Finish → Prop
  /-- The steps are used up before anything is done. -/
  | unbegun : Whole listing socket [] .cut
  /-- The steps are used up before the answer is waited for. -/
  | unanswered {packet : List UInt8} (query : (listing.query .null).toBytes = .ok packet) :
    Whole listing socket [.sent socket packet (.ok ())] .cut
  | failed {first : Attempt} {fault : Fault}
    (query : (listing.query .null).toBytes = .ok first.packet)
    (failure : first.page = .error fault) : Whole listing socket (first.acts socket) (.failed fault)
  | begun {first : Attempt} {page : Page} {rounds : List Round} {finish : Finish}
    (query : (listing.query .null).toBytes = .ok first.packet) (decoded : first.page = .ok page)
    (course : Course listing page rounds finish) :
    Whole listing socket (first.acts socket ++ listing.roundActs socket rounds) finish

/-- After its first packet a listing waits for the answer, and then goes through rounds. -/
theorem whole_of_awaiting (hattends : listener.Attends) {packet : List UInt8}
    (hquery : (listing.query .null).toBytes = .ok packet) (scenario : Scenario)
    (socket limit : Nat) (state : State) (phase : state.phase = .awaiting) (browser : Browser)
    (history : History) :
    ∃ acts finish, Whole listing socket (.sent socket packet (.ok ()) :: acts) finish ∧
      Ends listing scenario listener socket limit state browser history acts finish := by
  have hfinished : state.isFinished = false := by simp [State.isFinished, phase]
  cases limit with
  | zero => exact ⟨[], .cut, .unanswered hquery, ends_cut hfinished⟩
  | succ limit =>
      obtain ⟨result, browser', history', hmove, hstep⟩ :=
        move_step listing scenario false listener socket state browser history
      have hnone : listener.Acts scenario browser history [] browser history := .nil
      cases hmove with
      | beginStopped other | beginFailed other | begun other | listenerFailed other
      | delivered other | pauseStopped other | proceedStopped other | retried other
      | proceedFailed other | proceeded other => cases phase.symm.trans other
      | rested ended => cases hfinished.symm.trans ended
      | @awaitFailed fault _ _ receives =>
          have hall : Ends listing scenario listener socket (limit + 1) state browser history _
              (.failed fault) := ends_failed hfinished hstep (hnone.awaited receives)
          have hpage : (⟨packet, .ok (.error fault)⟩ : Attempt).page = .error fault := rfl
          exact ⟨_, _, .failed hquery hpage, hall⟩
      | @awaited reply _ _ receives =>
          have hdecoded := (hnone.awaited receives).asides (asides_decodeEvents state reply)
          have hpage : (⟨packet, .ok (.ok reply)⟩ : Attempt).page = Response.parse reply := rfl
          cases hparse : Response.parse reply with
          | error fault =>
              rw [hparse] at hstep hpage
              have hall : Ends listing scenario listener socket (limit + 1) state browser history _
                  (.failed fault) := ends_failed hfinished hstep hdecoded
              exact ⟨_, _, .failed hquery hpage, hall⟩
          | ok page =>
              rw [hparse] at hstep hpage
              obtain ⟨rounds, finish, hcourse, hends⟩ := (delivers_continues hattends limit).1
                (state.withPage page) reply browser _ rfl hparse
              have hall := hends.step hfinished hstep hdecoded (by simp)
              exact ⟨_, _, .begun hquery hpage hcourse, hall⟩

/-- The steps of a listing from its beginning make a whole listing. -/
theorem whole_of_initial (hattends : listener.Attends) (listing : Listing) (scenario : Scenario)
    (socket limit : Nat) (browser : Browser) (history : History) :
    ∃ acts finish, Whole listing socket acts finish ∧
      Ends listing scenario listener socket limit listing.initial browser history acts finish := by
  have hfinished : listing.initial.isFinished = false := rfl
  obtain ⟨packet, hquery, -⟩ :=
    (listing.query .null).cursor?_toBytes ServerAddress.isRecord_null rfl
  cases limit with
  | zero => exact ⟨[], .cut, .unbegun, ends_cut hfinished⟩
  | succ limit =>
      obtain ⟨result, browser', history', hmove, hstep⟩ :=
        move_step listing scenario false listener socket listing.initial browser history
      cases hmove with
      | awaitFailed other | awaited other | listenerFailed other | delivered other
      | pauseStopped other | proceedStopped other | retried other | proceedFailed other
      | proceeded other => cases other
      | rested ended => cases hfinished.symm.trans ended
      | beginStopped _ set => cases set
      | @beginFailed fault _ _ clear asks =>
          rw [look, if_neg Bool.false_ne_true, List.append_nil] at asks
          have hall : Ends listing scenario listener socket (limit + 1) listing.initial browser
              history _ (.failed fault) := ends_failed hfinished hstep (asks.acts hquery browser)
          have hpage : (⟨packet, .error fault⟩ : Attempt).page = .error fault := rfl
          exact ⟨_, _, .failed hquery hpage, hall⟩
      | begun _ clear asks =>
          rw [look, if_neg Bool.false_ne_true, List.append_nil] at asks
          obtain ⟨acts, finish, hwhole, hends⟩ := whole_of_awaiting hattends hquery scenario socket
            limit { listing.initial with phase := .awaiting, cursor := .null } rfl browser history'
          have hall := hends.step hfinished hstep (asks.acts hquery browser) (by simp)
          exact ⟨_, _, hwhole, hall⟩

/-- **How a listing tries again.**  Without a cancel signal a listing over a socket that opens is a
first attempt and the rounds from the page that it gets, and ends as these do: the first attempt is
made once and without a delay; each page that is not refused and not the last one is followed by a
stretch of attempts, each after a delay, up to the first that is not lost or until the retries are
used up; and what the last one gets is the next page, or ends the listing. -/
theorem run_whole (listing : Listing) (scenario : Scenario) (listener : Listener Play) (limit : Nat)
    (browser : Browser) (history : History) (hattends : listener.Attends) :
    match scenario.connect (listing.opened history) with
    | .error fault =>
      listing.run (scenario.world false) listener limit browser history =
        ((.error fault, browser), listing.opened history)
    | .ok () =>
      ∃ result browser' history' acts finish, ∃ records : List Log.Record,
        listing.run (scenario.world false) listener limit browser history =
          ((result, browser'), history' ++ .closed history.socketCount :: records.map .logged) ∧
        listener.Acts scenario browser (listing.opened history) acts browser' history' ∧
        listing.Whole history.socketCount acts finish ∧
        result.map State.phase = finish.result ∧ (finish = .cut → limit ≤ acts.length) := by
  cases hopen : scenario.connect (listing.opened history) with
  | error fault => exact run_play_error listing scenario false listener hopen
  | ok =>
      obtain ⟨acts, finish, hwhole, result, browser', history', hsteps, hacts, hresult, hlimit⟩ :=
        whole_of_initial hattends listing scenario history.socketCount limit browser
          (listing.opened history)
      have hrun := run_play listing scenario false listener history hopen hsteps
      obtain ⟨records, hclosing⟩ := closing_eq listing history.socketCount result
      rw [hclosing] at hrun
      exact ⟨_, browser', history', acts, finish, records, hrun, hacts, hwhole, hresult, hlimit⟩

/-- A socket over which the first continuation is lost twice, once in sending and once in
receiving, before the end comes. -/
def twiceLost : Scenario :=
  Script.scenario [{
    sends := [none, some (.raised .transport "unreachable")]
    receives := [
      .ok (Response.header ++ [1, 2, 3, 4, 105, 135]),
      .error (.raised .transport "lost"),
      .ok (Response.header ++ [0, 0, 0, 0, 0, 0])] }] .direct

/-- The rounds over that socket. -/
theorem run_whole_twiceLost :
    (Listener.always []).Attends ∧
      ∃ result browser' history' acts finish, ∃ records : List Log.Record,
        run ⟨.text "master:27011", [], { retryCount := 2 }⟩ (twiceLost.world false)
            (.always []) 10 {} [] =
          ((result, browser'), history' ++ .closed 0 :: records.map .logged) ∧
        (Listener.always []).Acts twiceLost {}
          (opened ⟨.text "master:27011", [], { retryCount := 2 }⟩ []) acts browser' history' ∧
        Whole ⟨.text "master:27011", [], { retryCount := 2 }⟩ 0 acts finish ∧
        result.map State.phase = finish.result ∧ (finish = .cut → 10 ≤ acts.length) := by
  have hattends : (Listener.always []).Attends := Behaviour.attends_listener (by simp) _ 0
  exact ⟨hattends, run_whole ⟨.text "master:27011", [], { retryCount := 2 }⟩ twiceLost _ 10 {} []
    hattends⟩

end ServerBrowser.Listing
