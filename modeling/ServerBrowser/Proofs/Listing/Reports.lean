import ServerBrowser.Proofs.Browser.Conversations
import ServerBrowser.Proofs.Listing.Family
import ServerBrowser.Scenario.Script

/-!
# ServerBrowser.Proofs.Listing.Reports

What a listing says of what goes wrong, in whatever monad it runs.  In a chronicled world all that
happens is written down, and all that is said.  That changes nothing (`chronicled_corresponds`), and
a `Ledger` tells from what happens which failures of the transport a listing has to get over: each
that is followed by another pause, with the server that is continued from and the attempts that may
still follow.  A listing says just these, in their order, and its end if that is a failure
(`run_reports`).

`Agrees` is what carries the proof: up to each attempt the ledger says what the state does.
-/

namespace ServerBrowser

variable {m : Type → Type} [Monad m] {α S : Type}

namespace Listing

/-! ## chronicles -/

/-- What the operations of a listing come to. -/
inductive Occurrence where
  | opened
  | paused
  | sent (answer : Except Fault Unit)
  | received (answer : Except Fault (List UInt8))
  /-- A page was handed to the listener, who has answered. -/
  | handed (answer : Except Fault (List ServerAddress))
deriving DecidableEq

/-- What has happened and what has been said. -/
structure Chronicle where
  occurrences : List Occurrence := []
  records : List Log.Record := []

namespace Chronicle

def note (chronicle : Chronicle) (occurrence : Occurrence) : Chronicle :=
  { chronicle with occurrences := chronicle.occurrences ++ [occurrence] }

def say (chronicle : Chronicle) (record : Log.Record) : Chronicle :=
  { chronicle with records := chronicle.records ++ [record] }

/-- Do something, and write down what it comes to. -/
def noting (write : α → Chronicle → Chronicle) (action : m α) : StateT Chronicle m α := do
  let a ← monadLift action
  modify (write a)
  return a

end Chronicle

open Chronicle (noting)

/-- A world in which all that happens is written down, and all that is said. -/
def chronicled (world : Surroundings m S) : Surroundings (StateT Chronicle m) S where
  transport := {
    connect master timeout := noting
      (fun answer chronicle => if answer.isOk then chronicle.note .opened else chronicle)
      (world.transport.connect master timeout)
    send socket packet := noting (fun answer => (·.note (.sent answer)))
      (world.transport.send socket packet)
    receive socket := noting (fun answer => (·.note (.received answer)))
      (world.transport.receive socket)
    close socket := monadLift (world.transport.close socket) }
  sleep time := noting (fun _ => (·.note .paused)) (world.sleep time)
  cancel := world.cancel.map fun signal => {
    isSet := monadLift signal.isSet
    wait time := noting (fun _ => (·.note .paused)) (signal.wait time) }
  log record := noting (fun _ => (·.say record)) (world.log record)

/-- A listener of which it is written down what it answers. -/
def chronicledListener (listener : Listener m) : Listener (StateT Chronicle m) :=
  fun page => noting (fun answer => (·.note (.handed answer))) (listener page)

/-! ## ledgers -/

/-- A failure of the transport that is followed by another attempt. -/
structure Retry where
  /-- The server that is continued from. -/
  cursor : ServerAddress
  fault : Fault
  /-- How many attempts may follow until the next page is delivered. -/
  left : Int

/-- What is said of a failure that is followed by another attempt. -/
def Retry.record (retry : Retry) : Log.Record :=
  Listing.record Log.warning
    (s!"Continuation after {retry.cursor} failed ({retry.fault.message}), " ++
      s!"{retry.left} retries left")

/-- What is to be known of what has happened. -/
structure Ledger where
  /-- The last server of the page delivered last. -/
  cursor : ServerAddress := .null
  /-- How many pages were delivered. -/
  pages : Int := 0
  /-- How many attempts were lost since then and followed by another one. -/
  spent : Int := 0
  /-- The failure of the transport that was met just now. -/
  lost : Option Fault := none
  /-- All failures of the transport that were followed by another attempt. -/
  retries : List Retry := []

/-- The failure of the transport that an answer tells of. -/
def lostIn : Except Fault α → Option Fault
  | .ok _ => none
  | .error fault => if fault.isTransport then some fault else none

/-- Enter what has happened into a ledger, where so many attempts may follow a lost one. -/
def Ledger.enter (retryCount : Nat) (ledger : Ledger) : Occurrence → Ledger
  | .opened => ledger
  | .sent answer => { ledger with lost := lostIn answer }
  | .received answer => { ledger with lost := lostIn answer }
  | .handed (.error _) => { ledger with lost := none }
  | .handed (.ok left) =>
    { ledger with
      cursor := left.getLastD ledger.cursor
      pages := ledger.pages + 1
      spent := 0
      lost := none }
  | .paused =>
    match ledger.lost with
    | none => ledger
    | some fault =>
      { ledger with
        spent := ledger.spent + 1
        lost := none
        retries := ledger.retries ++ [⟨ledger.cursor, fault, retryCount - ledger.spent⟩] }

/-- The ledger of all that has happened. -/
def ledger (listing : Listing) (occurrences : List Occurrence) : Ledger :=
  occurrences.foldl (Ledger.enter listing.settings.retryCount) {}

/-- The records of a listing that have a level. -/
def recordsAt (level : Int) (records : List Log.Record) : List Log.Record :=
  records.filter fun said => said.logger = Log.listingLogger ∧ said.level = level

/-- What has happened to a listing where it gives a result.  If its steps were used up, the next
attempt is still to come. -/
def happened (result : Except Fault State) (chronicle : Chronicle) : List Occurrence :=
  match result with
  | .error .exhausted => chronicle.occurrences ++ [.paused]
  | _ => chronicle.occurrences

/-- What is said of the end of a listing that has failed: how many pages it has delivered, and the
fault that it gives. -/
def failure (listing : Listing) (result : Except Fault State) (ledger : Ledger) :
    List Log.Record :=
  match result with
  | .ok _ => []
  | .error fault =>
    if fault.inFamily then
      [record Log.error
        (s!"Query to {listing.master.display} failed after {ledger.pages} page(s): " ++
          fault.message)]
    else []

/-- Whether a listing has said what there is to say: a warning for each failure of the transport
after which it went on, and an error if it has failed. -/
structure Reported (listing : Listing) (result : Except Fault State) (chronicle : Chronicle) :
    Prop where
  warnings : recordsAt Log.warning chronicle.records =
    (listing.ledger (happened result chronicle)).retries.map Retry.record
  left : ∀ retry ∈ (listing.ledger (happened result chronicle)).retries,
    retry.fault.isTransport = true ∧ 1 ≤ retry.left ∧ retry.left ≤ listing.settings.retryCount
  errors : recordsAt Log.error chronicle.records =
    listing.failure result (listing.ledger chronicle.occurrences)

variable {listing : Listing} {chronicle : Chronicle} {state : State} {pages : Int}
  {lost : Option Fault} {level : Int} {said : Log.Record}

/-! ## what is said and noted -/

@[simp] theorem ledger_note (listing : Listing) (chronicle : Chronicle) (occurrence : Occurrence) :
    listing.ledger (chronicle.note occurrence).occurrences =
      (listing.ledger chronicle.occurrences).enter listing.settings.retryCount occurrence := by
  simp [ledger, Chronicle.note]

@[simp] theorem records_note (chronicle : Chronicle) (occurrence : Occurrence) :
    (chronicle.note occurrence).records = chronicle.records := rfl

@[simp] theorem occurrences_say (chronicle : Chronicle) (said : Log.Record) :
    (chronicle.say said).occurrences = chronicle.occurrences := rfl

@[simp] theorem recordsAt_say (level : Int) (chronicle : Chronicle) (said : Log.Record) :
    recordsAt level (chronicle.say said).records =
      recordsAt level chronicle.records ++ recordsAt level [said] := by
  simp [recordsAt, Chronicle.say]

theorem recordsAt_record_self (level : Int) (text : String) :
    recordsAt level [record level text] = [record level text] := by
  simp [recordsAt, record]

theorem recordsAt_record_of_ne {other : Int} (h : other ≠ level) (text : String) :
    recordsAt level [record other text] = [] := by
  simp [recordsAt, record, h]

/-- Remarks about a packet are not said by the listing itself. -/
theorem recordsAt_remarks {packet : List UInt8} (h : said ∈ Response.remarks packet) (level : Int) :
    recordsAt level [said] = [] := by
  unfold Response.remarks at h
  simp only at h
  split at h
  · rw [List.mem_singleton.1 h]
    simp [recordsAt, Log.packetLogger, Log.listingLogger]
  · split at h
    · rw [List.mem_singleton.1 h]
      simp [recordsAt, Log.packetLogger, Log.listingLogger]
    · cases h

/-- That the warnings are those of the ledger, that there is no error, and that so many pages were
delivered. -/
structure Told (listing : Listing) (pages : Int) (chronicle : Chronicle) : Prop where
  warnings : recordsAt Log.warning chronicle.records =
    (listing.ledger chronicle.occurrences).retries.map Retry.record
  left : ∀ retry ∈ (listing.ledger chronicle.occurrences).retries,
    retry.fault.isTransport = true ∧ 1 ≤ retry.left ∧ retry.left ≤ listing.settings.retryCount
  errors : recordsAt Log.error chronicle.records = []
  pages : (listing.ledger chronicle.occurrences).pages = pages

/-- That a ledger tells where a listing continues and how often it may. -/
structure Ledger.Continues (ledger : Ledger) (listing : Listing) (state : State) : Prop where
  cursor : ledger.cursor = state.cursor
  spent : ledger.spent = listing.settings.retryCount - state.retriesLeft
  bounded : 0 ≤ state.retriesLeft ∧ state.retriesLeft ≤ listing.settings.retryCount

/-- That the ledger agrees with a state in which nothing is pending but the given loss. -/
structure Agrees (listing : Listing) (state : State) (lost : Option Fault) (chronicle : Chronicle) :
    Prop where
  told : listing.Told state.pagesDelivered chronicle
  lost : (listing.ledger chronicle.occurrences).lost = lost
  continues : state.phase = .continuing →
    (listing.ledger chronicle.occurrences).Continues listing state

/-- How the chronicle of an unfinished listing stands.  One that continues may have lost an attempt,
but not without having said so, and will pause before anything else. -/
def Stands (listing : Listing) (state : State) (chronicle : Chronicle) : Prop :=
  listing.Agrees state none
    (if state.phase = .continuing then chronicle.note .paused else chronicle)

/-- What is said quietly changes nothing. -/
theorem Agrees.say (h : listing.Agrees state lost chronicle)
    (hwarning : recordsAt Log.warning [said] = []) (herror : recordsAt Log.error [said] = []) :
    listing.Agrees state lost (chronicle.say said) :=
  { h with told := { h.told with
    warnings := by simpa [hwarning] using h.told.warnings
    errors := by simpa [herror] using h.told.errors } }

/-- What only changes what is pending. -/
theorem Agrees.pending (h : listing.Agrees state lost chronicle) {lost' : Option Fault}
    {occurrence : Occurrence}
    (hledger : (listing.ledger chronicle.occurrences).enter listing.settings.retryCount occurrence =
      { listing.ledger chronicle.occurrences with lost := lost' }) :
    listing.Agrees state lost' (chronicle.note occurrence) where
  told := {
    warnings := by simpa [hledger] using h.told.warnings
    left := by simpa [hledger] using h.told.left
    errors := h.told.errors
    pages := by simpa [hledger] using h.told.pages }
  lost := by simp [hledger]
  continues phase := by
    obtain ⟨hcursor, hspent, hbounded⟩ := h.continues phase
    constructor <;> simpa [hledger]

/-- Where nothing is pending, a pause makes no difference. -/
theorem Ledger.enter_paused {ledger : Ledger} (h : ledger.lost = none) (retryCount : Nat) :
    ledger.enter retryCount .paused = { ledger with lost := none } := by
  obtain ⟨cursor, pages, spent, lost, retries⟩ := ledger
  obtain rfl : lost = none := h
  rfl

/-- **A lost attempt that is followed by another one** is entered as it has been said. -/
theorem Agrees.retried {fault : Fault} (h : listing.Agrees state (some fault) chronicle)
    (phase : state.phase = .continuing) (htransport : fault.isTransport = true)
    (hleft : 0 < state.retriesLeft) :
    listing.Agrees { state with retriesLeft := state.retriesLeft - 1, lastFault := some fault } none
      ((chronicle.say (Retry.record ⟨state.cursor, fault, state.retriesLeft⟩)).note .paused) := by
  obtain ⟨hcursor, hspent, hbounded⟩ := h.continues phase
  have hentry : (listing.ledger chronicle.occurrences).enter listing.settings.retryCount .paused =
      { listing.ledger chronicle.occurrences with
        spent := listing.settings.retryCount - (state.retriesLeft - 1)
        lost := none
        retries := (listing.ledger chronicle.occurrences).retries ++
          [⟨state.cursor, fault, state.retriesLeft⟩] } := by
    simp only [Ledger.enter, h.lost, hcursor, hspent, Ledger.mk.injEq, true_and]
    refine ⟨by omega, ?_⟩
    congr 3
    omega
  have hwarning := recordsAt_record_self Log.warning
  have herror := recordsAt_record_of_ne (show Log.warning ≠ Log.error by decide)
  refine ⟨⟨?_, ?_, ?_, ?_⟩, ?_, fun _ => ⟨?_, ?_, ?_⟩⟩ <;>
    simp only [ledger_note, occurrences_say, hentry, records_note, recordsAt_say]
  · rw [h.told.warnings, Retry.record, hwarning, List.map_append]
    rfl
  · intro retry hretry
    rcases List.mem_append.1 hretry with hbefore | hnow
    · exact h.told.left retry hbefore
    · rw [List.mem_singleton.1 hnow]
      exact ⟨htransport, hleft, hbounded.2⟩
  · rw [h.told.errors, Retry.record, herror, List.append_nil]
  · exact h.told.pages
  · exact hcursor
  · omega

theorem Told.paused (h : listing.Told pages chronicle)
    (hlost : (listing.ledger chronicle.occurrences).lost = none) :
    listing.Told pages (chronicle.note .paused) where
  warnings := by simpa [Ledger.enter_paused hlost] using h.warnings
  left := by simpa [Ledger.enter_paused hlost] using h.left
  errors := h.errors
  pages := by simpa [Ledger.enter_paused hlost] using h.pages

/-- A page that is handed back is one more. -/
theorem Told.handed (h : listing.Told pages chronicle) (left : List ServerAddress) :
    listing.Told (pages + 1) (chronicle.note (.handed (.ok left))) where
  warnings := by simpa [Ledger.enter] using h.warnings
  left := by simpa [Ledger.enter] using h.left
  errors := h.errors
  pages := by simp [Ledger.enter, h.pages]

/-! ## the parts of a step -/

/-- How the chronicle stands where a part of a step has given a result: the ledger agrees with
the state as before, but for what a fault tells of. -/
def Met (listing : Listing) (state : State) (result : Except Fault α) (chronicle : Chronicle) :
    Prop :=
  listing.Agrees state (lostIn result) chronicle

/-- What a step leads to that does not continue. -/
theorem Agrees.stands (h : listing.Agrees state none chronicle) {next : State}
    (hpages : next.pagesDelivered = state.pagesDelivered) (phase : next.phase ≠ .continuing) :
    listing.Stands next chronicle := by
  rw [Stands, if_neg phase]
  exact ⟨hpages ▸ h.told, h.lost, fun hphase => absurd hphase phase⟩

/-- How the chronicle stands after a step. -/
def After (listing : Listing) (result : Except Fault State) (chronicle : Chronicle) : Prop :=
  match result with
  | .error fault => fault.inFamily = false ∧ (listing.ledger chronicle.occurrences).lost = none ∧
      ∃ pages, listing.Told pages chronicle
  | .ok next =>
    match next.phase with
    | .done => listing.Told next.pagesDelivered chronicle
    | .failed => listing.Told next.pagesDelivered chronicle ∧
        ∃ fault, next.lastFault = some fault ∧ fault.inFamily = true
    | _ => listing.Stands next chronicle

/-- How the chronicle stands after a transition that delivers no page.  Only a failure of the
transport can leave something pending. -/
def Turned (listing : Listing) (state : State) (result : Except Fault State)
    (chronicle : Chronicle) : Prop :=
  match result with
  | .error fault => ∃ lost, listing.Agrees state lost chronicle ∧
      (fault.isTransport = false → lost = none)
  | .ok next => listing.After (.ok next) chronicle

theorem Met.turned {fault : Fault}
    (h : listing.Met state (.error fault : Except Fault α) chronicle) :
    listing.Turned state (.error fault) chronicle :=
  ⟨_, h, fun htransport => by simp [lostIn, htransport]⟩

/-- Where nothing is pending, any fault may end a transition. -/
theorem Agrees.turned (h : listing.Agrees state none chronicle) (fault : Fault) :
    listing.Turned state (.error fault) chronicle :=
  ⟨none, h, fun _ => rfl⟩

/-- What a listing continues after that has nothing pending. -/
theorem Agrees.stands_continuing (h : listing.Agrees state none chronicle)
    (phase : state.phase = .continuing) : listing.Stands state chronicle := by
  rw [Stands, if_pos phase]
  exact h.pending (Ledger.enter_paused h.lost _)

/-- A fault ends a listing, or leaves the step. -/
theorem Turned.settle {result : Except Fault State} (h : listing.Turned state result chronicle) :
    listing.After (state.settle result) chronicle := by
  cases result with
  | ok next => exact h
  | error fault =>
      obtain ⟨lost, hagrees, hlost⟩ := h
      cases hfamily : fault.inFamily with
      | true =>
          rw [State.settle, State.afterFault, if_pos hfamily]
          exact ⟨hagrees.told, fault, rfl, hfamily⟩
      | false =>
          rw [State.settle, State.afterFault, if_neg (by simp [hfamily])]
          have htransport : fault.isTransport = false := by
            by_contra htransport
            simp [Fault.inFamily_of_isTransport (by simpa using htransport)] at hfamily
          exact ⟨hfamily, by rw [hagrees.lost, hlost htransport], _, hagrees.told⟩

/-- **A page that was handed back** starts a stretch with all retries; a listener that fails ends
the listing. -/
theorem Agrees.handed (h : listing.Agrees state none chronicle)
    (answer : Except Fault (List ServerAddress)) :
    listing.After (state.settle (listing.handedBack state answer))
      (chronicle.note (.handed answer)) := by
  cases answer with
  | error fault =>
      have hpending : listing.Agrees state none (chronicle.note (.handed (.error fault))) :=
        h.pending rfl
      exact (hpending.turned (.listenerFailed fault)).settle
  | ok left =>
      have htold := h.told.handed left
      have hlost :
          (listing.ledger (chronicle.note (.handed (.ok left))).occurrences).lost = none := by
        simp [Ledger.enter]
      rw [handedBack, settle_delivered]
      cases hlast : state.page.isLast with
      | true =>
          rw [delivered_of_isLast left hlast]
          exact htold
      | false =>
          cases hleft : left.getLast? with
          | none =>
              rw [List.getLast?_eq_none_iff] at hleft
              subst hleft
              rw [delivered_nil hlast]
              exact ⟨rfl, hlost, _, htold⟩
          | some last =>
              rw [delivered_of_getLast? hlast hleft]
              refine Agrees.stands_continuing ⟨htold, hlost, fun _ => ?_⟩ rfl
              rw [ledger_note]
              constructor <;> simp [Ledger.enter, List.getLastD_eq_getLast?, hleft]

variable [LawfulMonad m] {world : Surroundings m S} {socket : S} {listener : Listener m}

namespace Chronicle

theorem ensures_noting {pre : Chronicle → Prop} {post : α → Chronicle → Prop}
    {write : α → Chronicle → Chronicle} {action : m α}
    (h : ∀ a chronicle, pre chronicle → post a (write a chronicle)) :
    Ensures pre (noting write action) post :=
  (Ensures.lift action pre).bind fun a =>
    have hwrite : Ensures pre (modify (write a) : StateT Chronicle m Unit) fun _ => post a :=
      .modify (h a)
    hwrite.bind fun _ => .pure fun _ h => h

/-- What cannot fail ensures the same where faults may be thrown. -/
theorem ensures_lift {pre : Chronicle → Prop} {post : α → Chronicle → Prop}
    {action : StateT Chronicle m α} (h : Ensures pre action post) :
    Ensures pre (ExceptT.lift action : ExceptT Fault _ α).run
      fun result chronicle => ∃ a, result = .ok a ∧ post a chronicle := by
  show Ensures pre (Except.ok <$> action) _
  rw [← bind_pure_comp]
  exact h.bind fun a => .pure fun _ h => ⟨a, rfl, h⟩

theorem ensures_given {pre : Chronicle → Prop} (result : Except Fault α) :
    Ensures pre (ExceptT.mk (pure result) : ExceptT Fault (StateT Chronicle m) α).run
      fun answer chronicle => answer = result ∧ pre chronicle :=
  .pure fun _ h => ⟨rfl, h⟩

/-- A signal that is set stops the query, whatever else may stop it. -/
theorem ensures_stop {holds pre : Chronicle → Prop}
    {action : ExceptT Fault (StateT Chronicle m) Bool}
    (h : Ensures pre action.run fun _ => holds) :
    Ensures pre
      (do if ← action then throw .queryCancelled : ExceptT Fault (StateT Chronicle m) Unit).run
      fun _ => holds := by
  refine h.bind_run (fun set => ?_) fun _ _ h => h
  cases set with
  | false => exact .pure fun _ h => h
  | true => exact .pure fun _ h => h

/-- To look at the cancel signal is no occurrence. -/
theorem ensures_checkCancelled (world : Surroundings m S) (holds : Chronicle → Prop) :
    Ensures holds (checkCancelled (chronicled world)).run fun _ => holds := by
  unfold checkCancelled
  cases hcancel : world.cancel with
  | none =>
      simp only [chronicled, hcancel, Option.map_none]
      exact .pure fun _ h => h
  | some signal =>
      simp only [chronicled, hcancel, Option.map_some]
      exact ensures_stop ((ensures_lift (.lift signal.isSet holds)).imp fun _ _ ⟨_, _, h⟩ => h)

/-- To pause is one, whatever ends the pause. -/
theorem ensures_pause (listing : Listing) (world : Surroundings m S) (holds : Chronicle → Prop) :
    Ensures (fun chronicle => holds (chronicle.note .paused)) (listing.pause (chronicled world)).run
      fun _ => holds := by
  unfold pause
  cases hcancel : world.cancel with
  | none =>
      simp only [chronicled, hcancel, Option.map_none]
      exact ensures_noting fun _ _ h => h
  | some signal =>
      simp only [chronicled, hcancel, Option.map_some]
      exact ensures_stop (ensures_noting fun _ _ h => h)

/-- To ask is to send a query, unless there is none for the cursor. -/
theorem ensures_ask (world : Surroundings m S) (socket : S) (cursor : ServerAddress) :
    Ensures (listing.Agrees state none) (listing.ask (chronicled world) socket cursor).run
      (listing.Met state) := by
  cases hpacket : (listing.query cursor).toBytes with
  | error fault =>
      have hask : (listing.ask (chronicled world) socket cursor).run = pure (.error fault) := by
        simp [ask, hpacket, ExceptT.run_bind]
      have hlost : lostIn (.error fault : Except Fault Unit) = none := by
        cases hrun : Text.nonAscii? (listing.query cursor).cursor.toList with
        | none =>
            obtain ⟨packet, hpacket'⟩ := Query.toBytes_of_ascii hrun
            cases hpacket.symm.trans hpacket'
        | some run =>
            cases hpacket.symm.trans (Query.toBytes_of_nonAscii hrun)
            rfl
      rw [hask]
      exact .pure fun _ h => by rwa [Met, hlost]
  | ok packet =>
      have hask : (listing.ask (chronicled world) socket cursor).run =
          (chronicled world).transport.send socket packet := by
        simp [ask, hpacket, ExceptT.run_bind]
      rw [hask]
      exact ensures_noting fun _ _ h => h.pending rfl

theorem ensures_receive (world : Surroundings m S) (socket : S) :
    Ensures (listing.Agrees state lost) ((chronicled world).transport.receive socket)
      (listing.Met state) :=
  ensures_noting fun _ _ h => h.pending rfl

theorem ensures_exchange (world : Surroundings m S) (socket : S) :
    Ensures (listing.Agrees state none) (listing.exchange (chronicled world) socket state).run
      (listing.Met state) :=
  (ensures_ask world socket state.cursor).bind_run (fun _ => ensures_receive world socket)
    fun _ _ h => h

theorem ensures_log (world : Surroundings m S) {said : Log.Record}
    (hwarning : recordsAt Log.warning [said] = []) (herror : recordsAt Log.error [said] = []) :
    Ensures (listing.Agrees state lost) ((chronicled world).log said)
      fun _ => listing.Agrees state lost :=
  ensures_noting fun _ _ h => h.say hwarning herror

/-- Remarks are made quietly. -/
theorem ensures_remarks (world : Surroundings m S) {remarks : List Log.Record}
    (h : ∀ said ∈ remarks, ∀ level, recordsAt level [said] = []) :
    Ensures (listing.Agrees state lost)
      (remarks.forM fun said => (ExceptT.lift ((chronicled world).log said) :
        ExceptT Fault (StateT Chronicle m) Unit)).run
      fun result chronicle => result = .ok () ∧ listing.Agrees state lost chronicle := by
  induction remarks with
  | nil => exact .pure fun _ h => ⟨rfl, h⟩
  | cons said remarks ih =>
      have hsaid := h said (by simp)
      refine (ensures_lift (ensures_log world (hsaid _) (hsaid _))).bind_run (fun _ => ?_)
        fun fault _ h => by simp at h
      exact (ih fun said hmem => h said (by simp [hmem])).of_imp fun _ ⟨_, _, h⟩ => h

/-- A decoded page is to be delivered; a packet that breaks the format is no loss. -/
theorem ensures_decode (world : Surroundings m S) (packet : List UInt8) :
    Ensures (listing.Agrees state none) (decode (chronicled world) state packet).run
      (listing.Turned state) := by
  unfold decode
  refine (ensures_remarks world fun _ => recordsAt_remarks).bind_run (fun _ => ?_)
    fun fault _ h => by simp at h
  refine (ensures_given (Response.parse packet)).bind_run (fun page => ?_) ?_
  · have hlog (text : String) : Ensures (listing.Agrees state none)
        ((chronicled world).log (record Log.debug text)) fun _ => listing.Agrees state none :=
      ensures_log world (recordsAt_record_of_ne (by decide) _)
        (recordsAt_record_of_ne (by decide) _)
    exact (ensures_lift ((hlog _).of_imp fun _ h => h.2.2)).bind_run
      (fun _ => .pure fun _ ⟨_, _, h⟩ => h.stands rfl (by simp)) fun fault _ h => by simp at h
  · rintro fault _ ⟨-, -, h⟩
    exact h.turned fault

theorem ensures_begin (world : Surroundings m S) (socket : S) :
    Ensures (listing.Agrees state none) (listing.begin (chronicled world) socket state).run
      (listing.Turned state) := by
  refine (ensures_checkCancelled world _).bind_run (fun _ => ?_) fun fault _ h => h.turned fault
  refine (ensures_ask world socket .null).bind_run (fun _ => ?_) fun _ _ h => h.turned
  exact .pure fun _ h => h.stands rfl (by simp)

theorem ensures_await (world : Surroundings m S) (socket : S) :
    Ensures (listing.Agrees state none) (await (chronicled world) socket state).run
      (listing.Turned state) :=
  (ensures_receive world socket).bind_run (fun packet => ensures_decode world packet)
    fun _ _ h => h.turned

theorem ensures_proceed (world : Surroundings m S) (socket : S)
    (phase : state.phase = .continuing) :
    Ensures (fun chronicle => listing.Agrees state none (chronicle.note .paused))
      (listing.proceed (chronicled world) socket state).run (listing.Turned state) := by
  refine (ensures_pause listing world _).bind_run (fun _ => ?_) fun fault _ h => h.turned fault
  refine (ensures_checkCancelled world _).bind_run (fun _ => ?_) fun fault _ h => h.turned fault
  have hexchange : Ensures (listing.Agrees state none)
      (listing.exchange (chronicled world) socket state).run (listing.Met state) :=
    ensures_exchange world socket
  refine (ensures_lift hexchange).bind_run (fun answer => ?_) fun fault _ h => by simp at h
  have hanswer : ∀ chronicle, (∃ a, Except.ok answer = (.ok a : Except Fault _) ∧
      listing.Met state a chronicle) → listing.Met state answer chronicle := by
    rintro _ ⟨_, ⟨⟩, h⟩
    exact h
  refine Ensures.of_imp ?_ hanswer
  cases answer with
  | ok packet => exact ensures_decode world packet
  | error fault =>
      by_cases hagain : fault.isTransport ∧ 0 < state.retriesLeft
      · simp only [if_pos hagain]
        have hlost : lostIn (.error fault : Except Fault (List UInt8)) = some fault := by
          simp [lostIn, hagain.1]
        have hlog : Ensures (listing.Met state (.error fault : Except Fault (List UInt8)))
            ((chronicled world).log (Retry.record ⟨state.cursor, fault, state.retriesLeft⟩))
            fun _ chronicle => listing.Agrees
              { state with retriesLeft := state.retriesLeft - 1, lastFault := some fault } none
              (chronicle.note .paused) := by
          refine ensures_noting fun _ chronicle h => ?_
          rw [Met, hlost] at h
          exact h.retried phase hagain.1 hagain.2
        refine (ensures_lift hlog).bind_run (fun _ => .pure ?_) fun fault _ h => by simp at h
        rintro chronicle ⟨_, _, h⟩
        simpa [Turned, After, phase, Stands] using h
      · simp only [if_neg hagain]
        exact .pure fun _ h => h.turned

/-- **A step** leaves the chronicle as its result has it. -/
theorem ensures_step (world : Surroundings m S) (socket : S) (listener : Listener m)
    (hfinished : state.isFinished = false) :
    Ensures (listing.Stands state)
      (listing.step (chronicled world) (chronicledListener listener) socket state)
      listing.After := by
  by_cases hdelivering : state.phase = .delivering
  · rw [step_of_delivering listing (chronicled world) socket (chronicledListener listener)
      hdelivering, ← bind_pure_comp]
    have hhanded : Ensures (listing.Stands state) (chronicledListener listener state.page.servers)
        fun answer => listing.After (state.settle (listing.handedBack state answer)) := by
      refine ensures_noting fun answer chronicle h => ?_
      rw [Stands, if_neg (by simp [hdelivering])] at h
      exact h.handed answer
    exact hhanded.bind fun _ => .pure fun _ h => h
  · have htransition : Ensures (listing.Stands state)
        (listing.transition (chronicled world) (chronicledListener listener) socket state).run
        (listing.Turned state) := by
      rw [transition]
      cases phase : state.phase with
      | start =>
          refine (ensures_begin world socket).of_imp fun _ h => ?_
          rwa [Stands, if_neg (by simp [phase])] at h
      | awaiting =>
          refine (ensures_await world socket).of_imp fun _ h => ?_
          rwa [Stands, if_neg (by simp [phase])] at h
      | delivering => exact absurd phase hdelivering
      | continuing =>
          refine (ensures_proceed world socket phase).of_imp fun _ h => ?_
          rwa [Stands, if_pos phase] at h
      | done | failed => simp [State.isFinished, phase] at hfinished
    refine htransition.bind fun result => ?_
    cases result with
    | ok next => exact .pure fun _ h => h.settle
    | error fault => exact .pure fun _ h => h.settle

end Chronicle

/-! ## runs -/

/-- How the chronicle stands after the steps of a listing. -/
def Closed (listing : Listing) (result : Except Fault State) (chronicle : Chronicle) : Prop :=
  match result with
  | .ok final => final.isFinished = true ∧ listing.After (.ok final) chronicle
  | .error fault => fault.inFamily = false ∧
      ∃ pages, listing.Told pages { chronicle with
        occurrences := happened (.error fault : Except Fault State) chronicle }

/-- A listing that stands anywhere has told all, up to its next pause. -/
theorem Stands.told (h : listing.Stands state chronicle) :
    listing.Told state.pagesDelivered (chronicle.note .paused) := by
  by_cases phase : state.phase = .continuing
  · rw [Stands, if_pos phase] at h
    exact h.told
  · rw [Stands, if_neg phase] at h
    exact h.told.paused h.lost

theorem After.closed {fault : Fault} (h : listing.After (.error fault) chronicle) :
    listing.Closed (.error fault) chronicle := by
  obtain ⟨hfamily, hlost, pages, htold⟩ := h
  refine ⟨hfamily, pages, ?_⟩
  unfold happened
  split
  · -- Here the transport has given the fault of steps that are used up.
    exact htold.paused hlost
  · exact htold

/-- An unfinished listing stands where its steps lead. -/
theorem After.stands (h : listing.After (.ok state) chronicle)
    (hfinished : state.isFinished = false) : listing.Stands state chronicle := by
  unfold After at h
  cases phase : state.phase <;> simp_all [State.isFinished]

theorem Chronicle.ensures_steps (world : Surroundings m S) (socket : S) (listener : Listener m)
    (limit : Nat) :
    Ensures (listing.After (.ok state))
      (listing.steps (chronicled world) (chronicledListener listener) socket limit state)
      listing.Closed := by
  induction limit generalizing state with
  | zero =>
      cases hfinished : state.isFinished with
      | true =>
          rw [steps, if_pos hfinished]
          exact .pure fun _ h => ⟨hfinished, h⟩
      | false =>
          rw [steps, if_neg (by simp [hfinished])]
          exact .pure fun _ h => ⟨rfl, _, (h.stands hfinished).told⟩
  | succ limit ih =>
      cases hfinished : state.isFinished with
      | true =>
          rw [steps, if_pos hfinished]
          exact .pure fun _ h => ⟨hfinished, h⟩
      | false =>
          rw [steps, if_neg (by simp [hfinished])]
          refine ((ensures_step world socket listener hfinished).of_imp fun _ h =>
            h.stands hfinished).bind fun result => ?_
          cases result with
          | error fault => exact .pure fun _ h => h.closed
          | ok next => exact ih

/-- A fault that leaves the steps is not told as an error. -/
theorem Closed.reported_error {fault : Fault} (h : listing.Closed (.error fault) chronicle) :
    listing.Reported (.error fault) chronicle := by
  obtain ⟨hfamily, pages, htold⟩ := h
  exact ⟨htold.warnings, htold.left, by simp [failure, hfamily, htold.errors]⟩

/-- A fault that has ended the listing is. -/
theorem reported_failed {fault : Fault} (htold : listing.Told state.pagesDelivered chronicle)
    (phase : state.phase = .failed) (hfault : state.lastFault = some fault)
    (hfamily : fault.inFamily = true) :
    listing.Reported (.error fault) (chronicle.say (listing.endRecord state)) := by
  have hend : listing.endRecord state = record Log.error
      (s!"Query to {listing.master.display} failed after {state.pagesDelivered} page(s): " ++
        fault.message) := by
    simp [endRecord, outcome, phase, hfault]
  have hhappened : happened (.error fault : Except Fault State)
      (chronicle.say (listing.endRecord state)) = chronicle.occurrences := by
    unfold happened
    split
    · next hexhausted =>
      cases hexhausted
      cases hfamily
    · rfl
  constructor
  case warnings =>
    rw [hhappened, recordsAt_say, hend, recordsAt_record_of_ne (by decide), List.append_nil,
      htold.warnings]
  case left =>
    rw [hhappened]
    exact htold.left
  case errors =>
    rw [recordsAt_say, htold.errors, hend, recordsAt_record_self, failure, if_pos hfamily,
      occurrences_say, htold.pages, List.nil_append]

/-- The end of a listing that is done is told quietly. -/
theorem reported_done (htold : listing.Told state.pagesDelivered chronicle)
    (phase : state.phase = .done) :
    listing.Reported (.ok state) (chronicle.say (listing.endRecord state)) := by
  have hend : ∃ text, listing.endRecord state = record Log.info text :=
    ⟨_, by simp only [endRecord, outcome, phase]; rfl⟩
  obtain ⟨text, hend⟩ := hend
  constructor
  case warnings =>
    rw [recordsAt_say, hend, recordsAt_record_of_ne (by decide), List.append_nil, htold.warnings]
    rfl
  case left => exact htold.left
  case errors =>
    rw [recordsAt_say, hend, recordsAt_record_of_ne (by decide), List.append_nil, htold.errors,
      failure]

theorem Closed.reported_ok (h : listing.Closed (.ok state) chronicle) :
    listing.Reported (outcome state) (chronicle.say (listing.endRecord state)) := by
  obtain ⟨hfinished, hafter⟩ := h
  unfold After at hafter
  cases phase : state.phase with
  | done =>
      simp only [phase] at hafter
      simpa [outcome, phase] using reported_done hafter phase
  | failed =>
      simp only [phase] at hafter
      obtain ⟨htold, fault, hfault, hfamily⟩ := hafter
      simpa [outcome, phase, hfault] using reported_failed htold phase hfault hfamily
  | _ => simp [State.isFinished, phase] at hfinished

theorem Chronicle.ensures_run (listing : Listing) (world : Surroundings m S) (listener : Listener m)
    (limit : Nat) :
    Ensures (· = {}) (listing.run (chronicled world) (chronicledListener listener) limit)
      fun result chronicle => .opened ∈ chronicle.occurrences →
        listing.Reported result chronicle := by
  have hquiet (text : String) : recordsAt Log.warning [record Log.info text] = [] ∧
      recordsAt Log.error [record Log.info text] = [] :=
    ⟨recordsAt_record_of_ne (by decide) _, recordsAt_record_of_ne (by decide) _⟩
  have hstart : Ensures (· = {})
      ((chronicled world).log (record Log.info
        s!"Querying {listing.master.display} with {listing.filters.length} filter(s)"))
      fun _ chronicle => listing.Agrees listing.initial none chronicle ∧
        chronicle.occurrences = [] := by
    refine ensures_noting fun _ chronicle h => ?_
    subst h
    have hinitial : listing.Agrees listing.initial none {} :=
      ⟨⟨rfl, by simp [ledger], rfl, rfl⟩, rfl, by simp [initial]⟩
    exact ⟨hinitial.say (hquiet _).1 (hquiet _).2, rfl⟩
  have hconnect : Ensures
      (fun chronicle => listing.Agrees listing.initial none chronicle ∧ chronicle.occurrences = [])
      ((chronicled world).transport.connect listing.master listing.settings.timeout)
      fun result chronicle => match result with
        | .ok _ => listing.Agrees listing.initial none chronicle
        | .error _ => chronicle.occurrences = [] := by
    refine ensures_noting fun result chronicle h => ?_
    cases result with
    | error fault => exact h.2
    | ok socket => exact h.1.pending (by simp [Ledger.enter, h.2, ledger])
  rw [run]
  refine hstart.bind fun _ => hconnect.bind fun result => ?_
  cases result with
  | error fault =>
      refine .pure fun chronicle h hopened => ?_
      rw [show chronicle.occurrences = [] from h] at hopened
      cases hopened
  | ok socket =>
      have hsteps : Ensures (listing.Agrees listing.initial none)
          (listing.steps (chronicled world) (chronicledListener listener) socket limit
            listing.initial)
          listing.Closed :=
        (ensures_steps world socket listener limit).of_imp fun _ h =>
          h.stands rfl (by simp [initial])
      refine hsteps.bind fun result =>
        Ensures.bind (.lift (world.transport.close socket) _) fun _ => ?_
      cases result with
      | error fault => exact .pure fun _ h _ => h.reported_error
      | ok state =>
          have hend : Ensures (listing.Closed (.ok state))
              ((chronicled world).log (listing.endRecord state))
              fun _ => listing.Reported (outcome state) :=
            ensures_noting fun _ _ h => h.reported_ok
          exact hend.bind fun _ => .pure fun _ h _ => h

/-! ## chronicles of the same run -/

open Correspondence (forgetting forgetting_lift)

theorem Chronicle.forgetting_noting (write : α → Chronicle → Chronicle) (action : m α) :
    forgetting.Rel (noting write action) action := by
  intro kept
  simp [noting]

/-- To write down what happens and what is said changes nothing. -/
theorem chronicled_corresponds (listing : Listing) (world : Surroundings m S) :
    (chronicled world).Corresponds forgetting listing world where
  send _ _ _ _ := Chronicle.forgetting_noting _ _
  receive _ := Chronicle.forgetting_noting _ _
  close _ := forgetting_lift _
  sleep := Chronicle.forgetting_noting _ _
  cancel := by
    unfold chronicled
    cases world.cancel with
    | none => exact .none
    | some signal => exact .some ⟨forgetting_lift _, Chronicle.forgetting_noting _ _⟩
  log _ := Chronicle.forgetting_noting _ _

/-- **A listing says what goes wrong.**  However a run over a socket goes, it warns of exactly those
failures of the transport after which it goes on, in their order, each with the server that it
continues from, its text and the attempts that may still follow; and it tells of an error exactly if
it fails, with the number of pages that were delivered and the fault that it gives. -/
theorem run_reports (listing : Listing) (world : Surroundings m S) (listener : Listener m)
    (limit : Nat) :
    (∀ chronicle, Prod.fst <$>
        (listing.run (chronicled world) (chronicledListener listener) limit).run chronicle =
      listing.run world listener limit) ∧
    Ensures (· = {}) (listing.run (chronicled world) (chronicledListener listener) limit)
      fun result chronicle => .opened ∈ chronicle.occurrences →
        listing.Reported result chronicle := by
  refine ⟨?_, Chronicle.ensures_run listing world listener limit⟩
  exact Correspondence.rel_run (chronicled_corresponds listing world).matches
    (Correspondence.connects_of_rel (Chronicle.forgetting_noting _ _))
    (fun _ => Chronicle.forgetting_noting _ _) limit

/-- A socket that loses two packets after the first page, and all after the second one. -/
def lostThenGone : Scenario :=
  Script.scenario [{
    receives := [
      .ok (Response.header ++ [1, 2, 3, 4, 105, 135]),
      .error (.raised .transport "lost"),
      .error (.raised .transport "late"),
      .ok (Response.header ++ [5, 6, 7, 8, 105, 135])] ++
      List.replicate 3 (.error (.raised .transport "gone")) }] .direct

/-- What a listing over that socket says. -/
theorem run_reports_lostThenGone :
    ∃ result chronicle browser history,
      run ⟨.text "master:27011", [], { retryCount := 2 }⟩ (chronicled (lostThenGone.world false))
          (chronicledListener (Listener.always [])) 20 {} {} [] =
        (((result, chronicle), browser), history) ∧
      Reported ⟨.text "master:27011", [], { retryCount := 2 }⟩ result chronicle ∧
      (recordsAt Log.warning chronicle.records ++ recordsAt Log.error chronicle.records).map
        Log.Record.text = [
          "Continuation after 1.2.3.4:27015 failed (lost), 2 retries left",
          "Continuation after 1.2.3.4:27015 failed (late), 1 retries left",
          "Continuation after 5.6.7.8:27015 failed (gone), 2 retries left",
          "Continuation after 5.6.7.8:27015 failed (gone), 1 retries left",
          "Query to master:27011 failed after 2 page(s): gone"] := by
  obtain ⟨out, hout⟩ : ∃ out,
      run ⟨.text "master:27011", [], { retryCount := 2 }⟩ (chronicled (lostThenGone.world false))
        (chronicledListener (Listener.always [])) 20 {} {} [] = out := ⟨_, rfl⟩
  obtain ⟨sure, hsure⟩ := (run_reports ⟨.text "master:27011", [], { retryCount := 2 }⟩
    (lostThenGone.world false) (Listener.always []) 20).2 {} rfl
  have hplay : (Subtype.val <$> sure) {} [] = out := (congrFun (congrFun hsure {}) []).trans hout
  have hreported : Occurrence.opened ∈ out.1.1.2.occurrences →
      Reported ⟨.text "master:27011", [], { retryCount := 2 }⟩ out.1.1.1 out.1.1.2 := by
    rw [← hplay]
    exact (sure {} []).1.1.property
  refine ⟨out.1.1.1, out.1.1.2, out.1.2, out.2, hout, hreported ?_, ?_⟩ <;> rw [← hout] <;>
    decide +kernel

end Listing

end ServerBrowser
