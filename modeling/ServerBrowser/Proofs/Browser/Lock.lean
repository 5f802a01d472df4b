import ServerBrowser.Proofs.Browser.Additions
import ServerBrowser.Proofs.Scenario
import ServerBrowser.Scenario.Script

/-!
# ServerBrowser.Proofs.Browser.Lock

When filters can be added to a browser while queries run, queries within queries included.  There is
one lock, which every query sets when it starts and clears when it ends.  An addition is refused,
and changes nothing, exactly where a query has started and none has ended since
(`Routine.add_refused_iff`).  Outside of queries that is nowhere, and within a query it is
everywhere up to the end of the first query that is run inside it.  After that end, and as long as
no other one starts, filters are added while the query around it still runs
(`Routine.add_accepted_afterNested`).
-/

namespace ServerBrowser

/-! ## marks -/

/-- Whether a query has started, and none has ended since then. -/
def Locked (marks : List Mark) : Prop :=
  ∃ before depth since, marks = before ++ .started depth :: since ∧ ∀ d, .ended d ∉ since

/-- What has happened since the start of a query that runs and that no other one runs around. -/
def Running (marks since : List Mark) : Prop :=
  ∃ before, marks = before ++ .started 0 :: since ∧ .ended 0 ∉ since

variable {marks : List Mark} {depth : Nat}

theorem not_locked_nil : ¬ Locked [] := by
  rintro ⟨before, depth, since, h, -⟩
  simp at h

/-- A start locks, an end unlocks, and an addition does neither. -/
theorem locked_concat {mark : Mark} :
    Locked (marks ++ [mark]) ↔
      (∃ depth, mark = .started depth) ∨ (∀ depth, mark ≠ .ended depth) ∧ Locked marks := by
  constructor
  · rintro ⟨before, depth, since, h, hsince⟩
    obtain rfl | ⟨since, last, rfl⟩ := List.eq_nil_or_concat since
    · obtain ⟨-, hmark⟩ := List.append_inj' h rfl
      exact .inl ⟨depth, (List.cons.inj hmark).1⟩
    · rw [List.concat_eq_append] at h hsince
      rw [← List.cons_append, ← List.append_assoc] at h
      obtain ⟨rfl, hmark⟩ := List.append_inj' h rfl
      obtain rfl := (List.cons.inj hmark).1
      refine .inr ⟨?_, before, depth, since, rfl, fun d hd => hsince d (by simp [hd])⟩
      rintro d rfl
      exact hsince d (by simp)
  · rintro (⟨depth, rfl⟩ | ⟨hmark, before, depth, since, rfl, hsince⟩)
    · exact ⟨marks, depth, [], rfl, by simp⟩
    · refine ⟨before, depth, since ++ [mark], by simp, fun d hd => ?_⟩
      obtain hd | hd := List.mem_append.1 hd
      · exact hsince d hd
      · exact hmark d (List.mem_singleton.1 hd).symm

theorem locked_started : Locked (marks ++ [.started depth]) :=
  locked_concat.2 (.inl ⟨depth, rfl⟩)

theorem not_locked_ended : ¬ Locked (marks ++ [.ended depth]) := by
  simp [locked_concat]

theorem locked_added {answer : Except Fault Unit} {old new : List String} :
    Locked (marks ++ [.added depth answer old new]) ↔ Locked marks := by
  simp [locked_concat]

/-- A query goes on with every mark but the one of its end. -/
theorem Running.concat {since : List Mark} {mark : Mark} (h : Running marks since)
    (hmark : mark ≠ .ended 0) : Running (marks ++ [mark]) (since ++ [mark]) := by
  obtain ⟨before, rfl, hsince⟩ := h
  exact ⟨before, by simp, by simp [hsince, hmark.symm]⟩

/-- Filters are unlocked within a query only where one has ended inside it. -/
theorem Running.ended_of_not_locked {since : List Mark} (h : Running marks since)
    (hlocked : ¬ Locked marks) : ∃ d, .ended (d + 1) ∈ since := by
  obtain ⟨before, rfl, hsince⟩ := h
  refine Classical.byContradiction fun hnone => ?_
  have hended : ∀ d, .ended d ∉ since := by
    intro d hd
    cases d with
    | zero => exact hsince hd
    | succ d => exact hnone ⟨d, hd⟩
  exact hlocked ⟨before, 0, since, rfl, hended⟩

/-! ## additions -/

/-- Whether a call was refused, and changed nothing. -/
def Refused (answer : Except Fault Unit) (old new : List String) : Prop :=
  answer = .error .filtersLocked ∧ new = old

/-- No app id is refused for the sake of the lock. -/
theorem AppId.number_ne_locked (id : AppId) : id.number ≠ .error .filtersLocked := by
  cases id with
  | whole n => simp [number]
  | real x =>
      rw [number]
      split <;> simp
  | text s =>
      rw [number]
      cases Text.readInt s <;> simp [Except.mapError]

namespace Addition

variable {browser after : Browser} {addition : Addition} {answer : Except Fault Unit}

/-- A call is refused exactly where a query has set the lock. -/
theorem Adds.refused_iff (h : Adds browser addition answer after) :
    Refused answer browser.filters after.filters ↔ browser.querying = true := by
  cases h with
  | locked running => simp [Refused, running]
  | added idle => simp [Refused, idle]
  | @brokenOff _ _ id _ fault idle spells refused =>
      have hfault : fault ≠ .filtersLocked := by
        rintro rfl
        exact id.number_ne_locked refused
      simp [Refused, idle, hfault]

/-- No call touches the lock. -/
theorem Adds.querying_eq (h : Adds browser addition answer after) :
    after.querying = browser.querying := by
  cases h <;> rfl

end Addition

/-! ## the lock -/

/-- What is said of a call: it is refused exactly where the filters are locked.  That is only within
queries, and within a query only the end of one inside it can have unlocked them. -/
structure Fair (before : List Mark) (depth : Nat) (answer : Except Fault Unit)
    (old new : List String) : Prop where
  refused_iff : Refused answer old new ↔ Locked before
  within : Locked before → 0 < depth
  unlocked : 0 < depth → ¬ Locked before →
    ∃ since d, Running before since ∧ .ended (d + 1) ∈ since

/-- What the lock and the calls have come to where so many queries run. -/
structure Guarded (depth : Nat) (marks : List Mark) (browser : Browser) : Prop where
  lock : browser.querying = true ↔ Locked marks
  within : Locked marks → 0 < depth
  running : 0 < depth → ∃ since, Running marks since
  fair : ∀ before d answer old new, before ++ [.added d answer old new] <+: marks →
    Fair before d answer old new

variable {browser : Browser}

/-- What is fair stays so with one more mark that is fair. -/
theorem Guarded.fair_concat {mark : Mark} (h : Guarded depth marks browser)
    (hmark : ∀ d answer old new, mark = .added d answer old new → Fair marks d answer old new) :
    ∀ before d answer old new, before ++ [.added d answer old new] <+: marks ++ [mark] →
      Fair before d answer old new := by
  intro before d answer old new hbefore
  obtain ⟨rfl, hlast⟩ | hbefore := moment_concat hbefore
  · exact hmark d answer old new hlast.symm
  · exact h.fair before d answer old new hbefore

theorem Guarded.add (h : Guarded depth marks browser) (addition : Addition) :
    Guarded depth (marks ++ [.added depth (addition.perform browser).1 browser.filters
      (addition.perform browser).2.filters]) (addition.perform browser).2 where
  lock := by rw [(addition.adds_perform browser).querying_eq, locked_added, h.lock]
  within := by rw [locked_added]; exact h.within
  running hdepth := by
    obtain ⟨since, hsince⟩ := h.running hdepth
    exact ⟨_, hsince.concat (by simp)⟩
  fair := h.fair_concat (by
    rintro _ _ _ _ ⟨⟩
    refine ⟨(addition.adds_perform browser).refused_iff.trans h.lock, h.within,
      fun hdepth hlocked => ?_⟩
    obtain ⟨since, hsince⟩ := h.running hdepth
    obtain ⟨d, hd⟩ := hsince.ended_of_not_locked hlocked
    exact ⟨since, d, hsince, hd⟩)

theorem Guarded.start (h : Guarded depth marks browser) :
    Guarded (depth + 1) (marks ++ [.started depth]) { browser with querying := true } where
  lock := iff_of_true rfl locked_started
  within _ := Nat.succ_pos depth
  running _ := by
    cases depth with
    | zero => exact ⟨[], marks, rfl, by simp⟩
    | succ depth =>
        obtain ⟨since, hsince⟩ := h.running (Nat.succ_pos depth)
        exact ⟨_, hsince.concat (by simp)⟩
  fair := h.fair_concat (by simp)

/-- The end of a query clears the lock, whatever runs around it. -/
theorem Guarded.stop (h : Guarded (depth + 1) marks browser) :
    Guarded depth (marks ++ [.ended depth]) { browser with querying := false } where
  lock := iff_of_false (by simp) not_locked_ended
  within hlocked := absurd hlocked not_locked_ended
  running hdepth := by
    obtain ⟨since, hsince⟩ := h.running (Nat.succ_pos depth)
    exact ⟨_, hsince.concat (by simpa using Nat.ne_of_gt hdepth)⟩
  fair := h.fair_concat (by simp)

/-- Where no query runs the lock is not set. -/
theorem Guarded.querying_eq_false (h : Guarded 0 marks browser) : browser.querying = false :=
  Bool.eq_false_iff.2 fun hlock => Nat.lt_irrefl 0 (h.within (h.lock.1 hlock))

variable {S : Type}

/-- What the lock and the calls have come to when a routine is over. -/
theorem Routine.guarded_play (routine : Routine) (client : Client)
    (world : Surroundings (StateM History) S) (limit : Nat) (browser : Browser) (history : History)
    (hidle : browser.querying = false) :
    Guarded 0 (routine.marks client world limit browser history)
      (routine.play client world limit 0 [] browser history).1.2 := by
  have hguarded : Guarded 0 [] browser :=
    { lock := iff_of_false (by simp [hidle]) not_locked_nil
      within := fun hlocked => absurd hlocked not_locked_nil
      running := fun hdepth => absurd hdepth (Nat.lt_irrefl 0)
      fair := fun before d answer old new h => by simp at h }
  have hplay := routine.leads_play client world limit Guarded
    (fun _ _ _ addition h => h.add addition) (fun _ _ _ h => h.start) (fun _ _ _ h => h.stop) 0
  exact hplay [] browser history hguarded

/-- **Filters are locked from the start of a query to the end of any.**  Whatever runs around a
browser, a call that adds filters is refused and changes nothing exactly where a query has started
and none has ended since.  That is only within queries; and where it is not so within a query, one
that was run inside it has ended. -/
theorem Routine.add_refused_iff (routine : Routine) (client : Client)
    (world : Surroundings (StateM History) S) (limit : Nat) (browser : Browser) (history : History)
    (hidle : browser.querying = false) :
    ∀ before depth answer old new,
      before ++ [.added depth answer old new] <+: routine.marks client world limit browser history →
        (answer = .error .filtersLocked ∧ new = old ↔ Locked before) ∧
        (Locked before → 0 < depth) ∧
        (0 < depth → ¬ Locked before →
          ∃ since d, Running before since ∧ .ended (d + 1) ∈ since) := by
  intro before depth answer old new hbefore
  have hfair := (routine.guarded_play client world limit browser history hidle).fair before depth
    answer old new hbefore
  exact ⟨hfair.refused_iff, hfair.within, hfair.unlocked⟩

/-- A query whose listener adds a filter before it runs a query of its own, and another one after
that. -/
def Routine.addingAroundNested : Routine :=
  .ask false
    (fun page => .add (.filters ["\\a\\1"]) fun _ =>
      .ask false (fun page => .finish (.ok page)) fun _ =>
        .add (.filters ["\\b\\2"]) fun _ => .finish (.ok page))
    fun _ => .finish (.ok [])

/-- Two sockets that give the last page at once. -/
def lastPages : Scenario :=
  Script.scenario [
    { receives := [.ok (Response.header ++ [0, 0, 0, 0, 0, 0])] },
    { receives := [.ok (Response.header ++ [0, 0, 0, 0, 0, 0])] }] .direct

/-- The first of the two filters is refused. -/
theorem Routine.add_refused_iff_beforeNested :
    ({} : Browser).querying = false ∧
      ((Except.error Fault.filtersLocked : Except Fault Unit) = .error .filtersLocked ∧
          ([] : List String) = [] ↔ Locked [.started 0]) :=
  ⟨rfl, (Routine.addingAroundNested.add_refused_iff ⟨.text "127.0.0.1:27011", .standard⟩
    (lastPages.surroundings lastPages.direct false) 10 {} [] rfl [.started 0] 1
    (.error .filtersLocked) [] []
    ⟨[.started 1, .ended 1, .added 1 (.ok ()) [] ["\\b\\2"], .ended 0], rfl⟩).1⟩

/-- The other one is added while the query still runs. -/
theorem Routine.add_accepted_afterNested :
    Routine.addingAroundNested.marks ⟨.text "127.0.0.1:27011", .standard⟩
        (lastPages.surroundings lastPages.direct false) 10 {} [] =
      [.started 0, .added 1 (.error .filtersLocked) [] [], .started 1, .ended 1,
        .added 1 (.ok ()) [] ["\\b\\2"], .ended 0] :=
  rfl

end ServerBrowser
