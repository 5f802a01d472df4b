import ServerBrowser.Proofs.Listing.Frame
import ServerBrowser.Proofs.Listing.Requests

/-!
# ServerBrowser.Proofs.Brackets

Histories in which sockets are opened and closed like brackets.  `Bracketed scenario owner past
since` is the grammar of what a query adds as `since` to a history `past`:

```
since    =  events about no socket, packets over the owner's socket, and brackets
bracket  =  opened k · (since with the owner k) · closed k
```

An opening that the scenario refuses is no bracket: there is no socket to be closed.  Sockets are
numbered in the order in which they are made, so no number is used twice (`Bracketed.bounds`), and
what stands between an opening and its end is all that there ever is about that socket
(`Bracketed.closes`).
-/

namespace ServerBrowser

open Scenario

/-- Whether an event is a packet that is sent, waited for or received. -/
def Event.isTransfer : Event → Bool
  | .sent .. | .awaited .. | .received .. => true
  | _ => false

/-- Whether sockets are opened and closed like brackets in `since`, which comes after `past`.  The
owner is an open socket around it, over which packets may go. -/
inductive Bracketed (scenario : Scenario) : Option Nat → History → History → Prop
  | nil {owner : Option Nat} {past : History} : Bracketed scenario owner past []
  | event {owner : Option Nat} {past since : History} {event : Event}
    (front : Bracketed scenario owner past since)
    (own : event.socket? = none ∨ event.isTransfer = true ∧ event.socket? = owner) :
    Bracketed scenario owner past (since ++ [event])
  | refused {owner : Option Nat} {past since : History} {socket : Nat} {master : MasterAddress}
    {timeout : Binary64} {fault : Fault} (front : Bracketed scenario owner past since)
    (number : socket = (past ++ since).socketCount)
    (answer : scenario.connect (past ++ since ++ [.opened socket master timeout]) = .error fault) :
    Bracketed scenario owner past (since ++ [.opened socket master timeout])
  | socket {owner : Option Nat} {past since inside : History} {socket : Nat}
    {master : MasterAddress} {timeout : Binary64} (front : Bracketed scenario owner past since)
    (number : socket = (past ++ since).socketCount)
    (answer : scenario.connect (past ++ since ++ [.opened socket master timeout]) = .ok ())
    (within : Bracketed scenario (some socket) (past ++ since ++ [.opened socket master timeout])
      inside) :
    Bracketed scenario owner past
      (since ++ .opened socket master timeout :: inside ++ [.closed socket])

namespace Bracketed

variable {scenario : Scenario} {owner : Option Nat} {past since first second more : History}
  {socket : Nat} {master : MasterAddress} {timeout : Binary64}

/-! ## putting histories together -/

theorem append (hfirst : Bracketed scenario owner past first)
    (hsecond : Bracketed scenario owner (past ++ first) second) :
    Bracketed scenario owner past (first ++ second) := by
  generalize hwhole : past ++ first = whole at hsecond
  have hsame : ∀ since : History, past ++ (first ++ since) = past ++ first ++ since :=
    fun since => (List.append_assoc past first since).symm
  induction hsecond with
  | nil => rwa [List.append_nil]
  | event front own ih =>
      rw [← List.append_assoc]
      exact (ih hfirst hwhole).event own
  | refused front number answer ih =>
      subst hwhole
      rw [← hsame] at number answer
      rw [← List.append_assoc]
      exact (ih hfirst rfl).refused number answer
  | socket front number answer within ih =>
      subst hwhole
      rw [← hsame] at number answer within
      have h := (ih hfirst rfl).socket number answer within
      simpa using h

/-- Events about no socket, and packets over the owner's, need no brackets. -/
theorem of_forall (h : ∀ event ∈ more,
      event.socket? = none ∨ event.isTransfer = true ∧ event.socket? = owner) :
    Bracketed scenario owner past more := by
  induction more using List.reverseRecOn with
  | nil => exact .nil
  | append_singleton more event ih =>
      have hfront : Bracketed scenario owner past more :=
        ih fun event hevent => h event (List.mem_append_left _ hevent)
      exact hfront.event (h event (by simp))

/-- What a listing over a socket adds by itself needs no brackets within those of its socket. -/
theorem of_own (h : more.Own socket) : Bracketed scenario (some socket) past more := by
  refine of_forall fun event hevent => ?_
  have hown := h event hevent
  cases event <;> simp_all [Event.isOwn, Event.socket?, Event.isTransfer]

theorem of_logged (records : List Log.Record) :
    Bracketed scenario owner past (records.map .logged) :=
  of_forall (by simp [Event.socket?])

/-- Where no packet goes over the socket around it, it makes no difference which one that is. -/
theorem weaken (h : Bracketed scenario none past since) :
    Bracketed scenario owner past since := by
  generalize hnone : (none : Option Nat) = nobody at h
  induction h with
  | nil => exact .nil
  | event front own ih =>
      subst hnone
      refine (ih rfl).event (own.imp_right fun h => ?_)
      obtain ⟨htransfer, hsocket⟩ := h
      rename_i event
      cases event <;> simp [Event.isTransfer, Event.socket?] at htransfer hsocket
  | refused front number answer ih => exact (ih hnone).refused number answer
  | socket front number answer within ih => exact (ih hnone).socket number answer within

/-! ## the numbers of sockets -/

/-- Everything is about a socket that is made there, or is a packet over the owner's. -/
theorem bounds (h : Bracketed scenario owner past since) :
    ∀ event ∈ since, ∀ socket, event.socket? = some socket →
      owner = some socket ∧ event.isTransfer = true ∨
        past.socketCount ≤ socket ∧ socket < History.socketCount (past ++ since) := by
  induction h with
  | nil => simp
  | @event owner past since last front own ih =>
      intro event hevent socket hsocket
      obtain hevent | hevent := List.mem_append.1 hevent
      · obtain howner | hbounds := ih event hevent socket hsocket
        · exact .inl howner
        · refine .inr ⟨hbounds.1, ?_⟩
          rw [← List.append_assoc, History.socketCount_append]
          omega
      · rw [List.mem_singleton.1 hevent] at hsocket ⊢
        obtain hnone | ⟨htransfer, howner⟩ := own
        · rw [hnone] at hsocket
          cases hsocket
        · exact .inl ⟨howner.symm.trans hsocket, htransfer⟩
  | @refused owner past since made master timeout fault front number answer ih =>
      intro event hevent socket hsocket
      have hcount : History.socketCount (past ++ (since ++ [.opened made master timeout])) =
          History.socketCount (past ++ since) + 1 := by
        rw [← List.append_assoc, History.socketCount_append]
        rfl
      obtain hevent | hevent := List.mem_append.1 hevent
      · obtain howner | hbounds := ih event hevent socket hsocket
        · exact .inl howner
        · exact .inr (by omega)
      · rw [List.mem_singleton.1 hevent] at hsocket
        obtain rfl : made = socket := Option.some.inj hsocket
        have hle : past.socketCount ≤ History.socketCount (past ++ since) := by
          rw [History.socketCount_append]
          omega
        exact .inr (by omega)
  | @socket owner past since inside made master timeout front number answer within ih ihWithin =>
      intro event hevent socket hsocket
      have hle : past.socketCount ≤ History.socketCount (past ++ since) := by
        rw [History.socketCount_append]
        omega
      have hopened : History.socketCount (past ++ since ++ [.opened made master timeout]) =
          History.socketCount (past ++ since) + 1 := by
        rw [History.socketCount_append]
        rfl
      have hcount : History.socketCount
            (past ++ (since ++ .opened made master timeout :: inside ++ [.closed made])) =
          History.socketCount
            (past ++ since ++ [.opened made master timeout] ++ inside) := by
        simp [History.socketCount]
      have hgrows : History.socketCount (past ++ since ++ [.opened made master timeout]) ≤
          History.socketCount (past ++ since ++ [.opened made master timeout] ++ inside) := by
        rw [History.socketCount_append _ inside]
        omega
      simp only [List.mem_append, List.mem_cons, List.not_mem_nil, or_false] at hevent
      obtain (hevent | rfl | hevent) | rfl := hevent
      · obtain howner | hbounds := ih event hevent socket hsocket
        · exact .inl howner
        · exact .inr (by omega)
      · obtain rfl : made = socket := Option.some.inj hsocket
        exact .inr (by omega)
      · obtain ⟨howner, -⟩ | hbounds := ihWithin event hevent socket hsocket
        · obtain rfl : made = socket := Option.some.inj howner
          exact .inr (by omega)
        · exact .inr (by omega)
      · obtain rfl : made = socket := Option.some.inj hsocket
        exact .inr (by omega)

/-! ## what the grammar says of a socket -/

/-- Nothing is about a socket that is made later. -/
theorem ne_of_later (h : Bracketed scenario owner past since)
    (howner : ∀ other, owner = some other → other < past.socketCount)
    (hsocket : History.socketCount (past ++ since) ≤ socket) :
    ∀ event ∈ since, event.socket? ≠ some socket := by
  intro event hevent habout
  have hle : past.socketCount ≤ History.socketCount (past ++ since) := by
    rw [History.socketCount_append]
    omega
  obtain ⟨hsome, -⟩ | hbounds := h.bounds event hevent socket habout
  · have := howner socket hsome
    omega
  · omega

/-- A bracket is about no socket that is older than its own. -/
theorem ne_of_older {number older : Nat} {opening ending : Event}
    (h : Bracketed scenario (some number) past since) (hpast : number < past.socketCount)
    (holder : older < number) (hopening : opening.socket? = some number)
    (hending : ending.socket? = some number) :
    ∀ event ∈ opening :: since ++ [ending], event.socket? ≠ some older := by
  intro event hevent habout
  simp only [List.mem_append, List.mem_cons, List.not_mem_nil, or_false] at hevent
  obtain (rfl | hevent) | rfl := hevent
  · have := Option.some.inj (hopening.symm.trans habout)
    omega
  · obtain ⟨hsome, -⟩ | hbounds := h.bounds event hevent older habout
    · have := Option.some.inj hsome
      omega
    · omega
  · have := Option.some.inj (hending.symm.trans habout)
    omega

/-- The number of a socket is new where it is opened. -/
theorem le_of_opened (h : Bracketed scenario owner past since)
    (hopened : .opened socket master timeout ∈ since) :
    past.socketCount ≤ socket ∧ socket < History.socketCount (past ++ since) := by
  obtain ⟨-, htransfer⟩ | hbounds := h.bounds _ hopened socket rfl
  · cases htransfer
  · exact hbounds

end Bracketed

/-- The life of a socket: what stands between its opening and its end, and that nothing else is
about it. -/
structure Lifetime (scenario : Scenario) (past before : History) (opening : Event) (socket : Nat)
    (inside after : History) : Prop where
  outside : ∀ event ∈ before ++ after, event.socket? ≠ some socket
  transfers : ∀ event ∈ inside, event.socket? = some socket → event.isTransfer = true
  nested : Bracketed scenario (some socket) (past ++ before ++ [opening]) inside

/-- A life that is over goes on to be over. -/
theorem Lifetime.extend {scenario : Scenario} {past before inside after more : History}
    {opening : Event} {socket : Nat}
    (h : Lifetime scenario past before opening socket inside after)
    (hmore : ∀ event ∈ more, event.socket? ≠ some socket) :
    Lifetime scenario past before opening socket inside (after ++ more) where
  outside event hevent := by
    rw [← List.append_assoc] at hevent
    obtain hevent | hevent := List.mem_append.1 hevent
    · exact h.outside event hevent
    · exact hmore event hevent
  transfers := h.transfers
  nested := h.nested

namespace Bracketed

variable {scenario : Scenario} {owner : Option Nat} {past since before : History}
  {socket : Nat} {master : MasterAddress} {timeout : Binary64}

/-- **A socket that is opened is closed once.**  Between the two stand the packets over it and what
is opened and closed in the meantime, and nothing else in the history is about it. -/
theorem closes (h : Bracketed scenario owner past since)
    (howner : ∀ other, owner = some other → other < past.socketCount)
    (hopened : before ++ [.opened socket master timeout] <+: since)
    (hanswer : scenario.connect (past ++ before ++ [.opened socket master timeout]) = .ok ()) :
    ∃ inside after,
      since = before ++ .opened socket master timeout :: inside ++ .closed socket :: after ∧
      Lifetime scenario past before (.opened socket master timeout) socket inside after := by
  induction h generalizing before with
  | nil => simp at hopened
  | @event owner past since last front own ih =>
      obtain ⟨rfl, rfl⟩ | hfront := moment_concat hopened
      · simp [Event.socket?, Event.isTransfer] at own
      · obtain ⟨inside, after, hsince, hlife⟩ := ih howner hfront hanswer
        have hnumber := front.le_of_opened (mem_of_moment hfront)
        refine ⟨inside, after ++ [last], by simp [hsince], hlife.extend ?_⟩
        intro event hevent habout
        rw [List.mem_singleton.1 hevent] at habout
        obtain hnone | ⟨-, hsome⟩ := own
        · cases hnone.symm.trans habout
        · have := howner socket (hsome.symm.trans habout)
          omega
  | @refused owner past since made master' timeout' fault front number answer ih =>
      obtain ⟨rfl, ⟨⟩⟩ | hfront := moment_concat hopened
      · cases answer.symm.trans hanswer
      · obtain ⟨inside, after, hsince, hlife⟩ := ih howner hfront hanswer
        have hnumber := front.le_of_opened (mem_of_moment hfront)
        refine ⟨inside, after ++ [.opened made master' timeout'], by simp [hsince],
          hlife.extend ?_⟩
        intro event hevent habout
        rw [List.mem_singleton.1 hevent] at habout
        have := Option.some.inj habout
        omega
  | @socket owner past since within made master' timeout' front number answer nested ih ihNested =>
      have hcount : History.socketCount (past ++ since ++ [.opened made master' timeout']) =
          made + 1 := by
        rw [History.socketCount_append, ← number]
        rfl
      have hnew : ∀ other, some made = some other →
          other < History.socketCount (past ++ since ++ [.opened made master' timeout']) := by
        rintro _ ⟨⟩
        omega
      obtain ⟨-, ⟨⟩⟩ | hopened := moment_concat hopened
      obtain hfront | ⟨between, rfl, hlater⟩ := moment_append hopened
      -- An older socket: the bracket comes after its end.
      · obtain ⟨inside, after, hsince, hlife⟩ := ih howner hfront hanswer
        have hnumber := front.le_of_opened (mem_of_moment hfront)
        refine ⟨inside, after ++ (.opened made master' timeout' :: within ++ [.closed made]),
          by simp [hsince], hlife.extend ?_⟩
        exact nested.ne_of_older (by omega) (by omega) rfl rfl
      obtain ⟨rfl, ⟨⟩⟩ | ⟨before, rfl, hwithin⟩ := moment_cons hlater
      -- The socket of the bracket itself.
      · refine ⟨within, [], by simp, ?_, ?_, ?_⟩
        · intro event hevent
          rw [List.append_nil, List.append_nil] at hevent
          exact front.ne_of_later howner (by omega) event hevent
        · intro event hevent habout
          obtain ⟨-, htransfer⟩ | hbounds := nested.bounds event hevent _ habout
          · exact htransfer
          · omega
        · rwa [List.append_nil]
      -- A socket within the bracket.
      · have hpast : past ++ (since ++ .opened made master' timeout' :: before) =
            past ++ since ++ [.opened made master' timeout'] ++ before := by simp
        rw [hpast] at hanswer
        obtain ⟨inside, after, hsince, hlife⟩ := ihNested hnew hwithin hanswer
        have hnumber := nested.le_of_opened (mem_of_moment hwithin)
        refine ⟨inside, after ++ [.closed made], by simp [hsince], ?_, hlife.transfers, ?_⟩
        · intro event hevent
          have hinner := hlife.outside event
          simp only [List.mem_append, List.mem_cons, List.not_mem_nil, or_false] at hevent hinner
          obtain (hevent | rfl | hevent) | hevent | rfl := hevent
          · exact front.ne_of_later howner (by omega) event hevent
          · intro habout
            have := Option.some.inj habout
            omega
          · exact hinner (.inl hevent)
          · exact hinner (.inr hevent)
          · intro habout
            have := Option.some.inj habout
            omega
        · rw [hpast]
          exact hlife.nested

/-- **Nothing is done on a socket before it is opened.** -/
theorem entered (h : Bracketed scenario owner past since) {event : Event}
    (hevent : before ++ [event] <+: since) (habout : event.socket? = some socket) :
    owner = some socket ∨ (∃ master timeout, event = .opened socket master timeout) ∨
      ∃ earlier master timeout, earlier ++ [.opened socket master timeout] <+: before ∧
        scenario.connect (past ++ earlier ++ [.opened socket master timeout]) = .ok () := by
  induction h generalizing before with
  | nil => simp at hevent
  | event front own ih =>
      obtain ⟨rfl, rfl⟩ | hfront := moment_concat hevent
      · obtain hnone | ⟨-, howner⟩ := own
        · cases hnone.symm.trans habout
        · exact .inl (howner.symm.trans habout)
      · exact ih hfront
  | refused front number answer ih =>
      obtain ⟨rfl, rfl⟩ | hfront := moment_concat hevent
      · cases habout
        exact .inr (.inl ⟨_, _, rfl⟩)
      · exact ih hfront
  | @socket owner past since inside made master timeout front number answer nested ih ihNested =>
      -- What comes after the opening finds it in the past.
      have hearlier : ∀ rest : History, ∃ earlier master' timeout',
          earlier ++ [.opened made master' timeout'] <+:
              since ++ .opened made master timeout :: rest ∧
            scenario.connect (past ++ earlier ++ [.opened made master' timeout']) = .ok () :=
        fun rest => ⟨since, master, timeout, ⟨rest, by simp⟩, answer⟩
      obtain ⟨rfl, rfl⟩ | hfront := moment_concat hevent
      · cases habout
        exact .inr (.inr (hearlier inside))
      obtain hfront | ⟨between, rfl, hlater⟩ := moment_append hfront
      · exact ih hfront
      obtain ⟨rfl, rfl⟩ | ⟨later, rfl, hwithin⟩ := moment_cons hlater
      · cases habout
        exact .inr (.inl ⟨_, _, rfl⟩)
      obtain hmade | hopened | ⟨earlier, master', timeout', hmoment, hanswer⟩ :=
        ihNested hwithin
      · cases hmade
        exact .inr (.inr (hearlier later))
      · exact .inr (.inl hopened)
      · obtain ⟨rest, rfl⟩ := hmoment
        refine .inr (.inr ⟨since ++ .opened made master timeout :: earlier, master', timeout',
          ⟨rest, by simp⟩, ?_⟩)
        simpa using hanswer

end Bracketed

end ServerBrowser
