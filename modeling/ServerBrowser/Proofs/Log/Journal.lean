import Mathlib.Data.List.Infix
import ServerBrowser.Log.Journal

/-!
# ServerBrowser.Proofs.Log.Journal

Where records go.  Setting up again and again leaves one handler, that of the newest stream, while
the levels of loggers add up: a logger has the lowest level as soon as it, or one of its ancestors,
was ever named (`Registry.effectiveLevel_of_own`, `Journal.after_performAll`).  From these it follows
what a call adds to which stream (`Journal.performAll_writes`).

The ancestors of a logger are what stands before its dots (`Registry.mem_lineage`), unless dots stand
next to each other.
-/

namespace ServerBrowser.Log

/-! ## names and their ancestors -/

/-- A name without two dots next to each other. -/
def IsDotted (logger : String) : Prop :=
  ¬ ['.', '.'] <:+: logger.toList

/-- A name covers a logger that it names, and those that begin with it and a dot. -/
def Covers (name logger : String) : Prop :=
  logger = name ∨ name.toList ++ ['.'] <+: logger.toList

instance (logger : String) : Decidable (IsDotted logger) :=
  inferInstanceAs (Decidable (¬ _))

instance (name logger : String) : Decidable (Covers name logger) :=
  inferInstanceAs (Decidable (_ ∨ _))

namespace Registry

/-- The ancestors of a name read backwards are what comes after its dots. -/
theorem mem_ancestorsFrom {name : String} (hname : name ≠ "") {backwards : List Char}
    (hdots : ¬ ['.', '.'] <:+: backwards) :
    name ∈ ancestorsFrom backwards ↔ '.' :: name.toList.reverse <:+ backwards := by
  fun_induction ancestorsFrom backwards with
  | case1 => simp
  | case2 c rest ih =>
      have hc : c ≠ '.' := by
        rintro rfl
        exact hdots ⟨[], rest, rfl⟩
      have hrest : ¬ ['.', '.'] <:+: rest := fun h => hdots (h.trans ⟨['.', c], [], by simp⟩)
      simp [ih hrest, ← String.toList_inj, List.suffix_cons_iff, hc.symm]
  | case3 c rest hnot ih =>
      have hrest : ¬ ['.', '.'] <:+: rest := fun h => hdots (h.trans ⟨[c], [], by simp⟩)
      -- The one dot that counts for nothing has nothing before it.
      have hend : ¬ ('.' = c ∧ name.toList.reverse = rest) := by
        rintro ⟨rfl, rfl⟩
        cases hletters : name.toList.reverse with
        | nil => simp_all
        | cons c rest => exact hnot c rest rfl hletters
      simp [ih hrest, List.suffix_cons_iff, hend]

/-- A logger and its ancestors are what covers it. -/
theorem mem_lineage {name logger : String} (hname : name ≠ "") (hlogger : IsDotted logger) :
    name ∈ lineage logger ↔ Covers name logger := by
  have hdots : ¬ ['.', '.'] <:+: logger.toList.reverse := fun h =>
    hlogger (List.reverse_infix.1 h)
  have hafter : '.' :: name.toList.reverse = (name.toList ++ ['.']).reverse := by simp
  rw [lineage, List.mem_cons, mem_ancestorsFrom hname hdots, hafter, List.reverse_suffix, Covers,
    eq_comm]

example : Covers "a" "a..b" ∧ ¬ IsDotted "a..b" ∧ "a" ∉ lineage "a..b" := by decide +kernel

/-- The root has no ancestors. -/
theorem lineage_of_isRoot {logger : String} (h : isRoot logger) : lineage logger = [logger] := by
  simp only [isRoot, Bool.or_eq_true, decide_eq_true_eq] at h
  rcases h with rfl | rfl <;> decide +kernel

/-! ## levels -/

variable {names : List String} {r : Registry}

theorem ownLevel_setLevel {logger : String} (hlogger : ¬ isRoot logger) (r : Registry) (level : Int)
    (name : String) :
    (r.setLevel logger level).ownLevel name = if name = logger then level else r.ownLevel name := by
  by_cases h : name = logger
  · simp [setLevel, ownLevel, hlogger, h]
  · simp [setLevel, ownLevel, hlogger, List.lookup_cons, h, beq_false_of_ne h]

/-- Loggers that are given a level have it, and nothing else changes. -/
theorem foldl_setLevel (hnames : ∀ name ∈ names, ¬ isRoot name) (r : Registry) (level : Int) :
    (names.foldl (setLevel · · level) r).root = r.root ∧
      (names.foldl (setLevel · · level) r).writing = r.writing ∧
      ∀ name, (names.foldl (setLevel · · level) r).ownLevel name =
        if name ∈ names then level else r.ownLevel name := by
  induction names generalizing r with
  | nil => simp
  | cons logger names ih =>
      have hlogger : ¬ isRoot logger := hnames logger (by simp)
      obtain ⟨hroot, hwriting, hown⟩ :=
        ih (fun name h => hnames name (by simp [h])) (r.setLevel logger level)
      have hset : r.setLevel logger level = { r with named := (logger, level) :: r.named } := by
        simp [setLevel, hlogger]
      refine ⟨by rw [List.foldl_cons, hroot, hset], by rw [List.foldl_cons, hwriting, hset], ?_⟩
      intro name
      rw [List.foldl_cons, hown, ownLevel_setLevel hlogger]
      grind

/-- **The level that counts** for a logger, where some loggers have the lowest one and the others
none. -/
theorem effectiveLevel_of_own (hnames : ∀ name ∈ names, ¬ isRoot name)
    (hown : ∀ name, r.ownLevel name = if name ∈ names then debug else 0) (logger : String) :
    r.effectiveLevel logger = if ∃ name ∈ names, name ∈ lineage logger then debug else r.root := by
  unfold effectiveLevel
  by_cases hroot : isRoot logger
  · have hnone : ¬ ∃ name ∈ names, name ∈ lineage logger := by
      rintro ⟨name, hname, hmem⟩
      rw [lineage_of_isRoot hroot, List.mem_singleton] at hmem
      exact hnames name hname (hmem ▸ hroot)
    rw [if_pos hroot, if_neg hnone]
  · rw [if_neg hroot]
    cases hfind : ((lineage logger).map r.ownLevel).find? (· ≠ 0) with
    | none =>
        have hnone : ¬ ∃ name ∈ names, name ∈ lineage logger := by
          rintro ⟨name, hname, hmem⟩
          have hzero := List.find?_eq_none.1 hfind (r.ownLevel name) (List.mem_map_of_mem hmem)
          simp [hown, hname, debug] at hzero
        rw [if_neg hnone, Option.getD_none]
    | some level =>
        obtain ⟨name, hmem, rfl⟩ := List.mem_map.1 (List.mem_of_find?_eq_some hfind)
        have hlevel : r.ownLevel name ≠ 0 := by simpa using List.find?_some hfind
        have hnamed : name ∈ names := by
          by_contra h
          simp [hown, h] at hlevel
        rw [if_pos ⟨name, hnamed, hmem⟩, Option.getD_some, hown, if_pos hnamed]

end Registry

/-! ## runs -/

/-- The set-ups among the deeds. -/
def setUps (deeds : List Deed) : List (Int × List String) :=
  deeds.filterMap fun deed => match deed with
    | .setUp level debugged => some (level, debugged)
    | .call .. => none

/-- The loggers that were ever named in a set-up. -/
def debuggedNames (deeds : List Deed) : List String :=
  (setUps deeds).flatMap (·.2)

/-- The level of the latest set-up. -/
def latestLevel? (deeds : List Deed) : Option Int :=
  (setUps deeds).getLast?.map (·.1)

/-- The level from which records of a logger are written after some deeds, the latest set-up having
given the root a level. -/
def levelFor (deeds : List Deed) (rootLevel : Int) (logger : String) : Int :=
  if ∃ name ∈ debuggedNames deeds, name ∈ Registry.lineage logger then debug else rootLevel

variable {deeds : List Deed}

@[simp] theorem setUps_setUp (deeds : List Deed) (level : Int) (debugged : List String) :
    setUps (deeds ++ [.setUp level debugged]) = setUps deeds ++ [(level, debugged)] := by
  simp [setUps]

@[simp] theorem setUps_call (deeds : List Deed) (time logger : String) (level : Int)
    (template : String) (values : List Json) :
    setUps (deeds ++ [.call time logger level template values]) = setUps deeds := by
  simp [setUps]

theorem Handler.length_write (handler : Handler) (streams : List String) (line : String) :
    (handler.write streams line).length = streams.length := by
  cases handler <;> simp [Handler.write]

namespace Journal

variable {journal : Journal}

theorem performAll_concat (deeds : List Deed) (deed : Deed) :
    performAll (deeds ++ [deed]) = (performAll deeds).perform deed := by
  simp [performAll]

theorem length_streams_write (journal : Journal) (line : String) :
    (journal.write line).streams.length = journal.streams.length := by
  have hlength (handlers : List Handler) (streams : List String) :
      (handlers.foldl (fun streams handler => handler.write streams line) streams).length =
        streams.length := by
    induction handlers generalizing streams with
    | nil => rfl
    | cons handler handlers ih => rw [List.foldl_cons, ih, Handler.length_write]
  exact hlength journal.handlers journal.streams

/-- The handler of the last stream writes to it. -/
theorem streams_write {earlier : List String} {latest : String}
    (hstreams : journal.streams = earlier ++ [latest])
    (hhandlers : journal.handlers = [.stream earlier.length]) (line : String) :
    (journal.write line).streams = earlier ++ [latest ++ line] := by
  simp [Journal.write, hstreams, hhandlers, Handler.write, List.modify_eq_take_drop]

/-- How a journal stands after some deeds: every set-up has brought a stream, the only handler is
that of the newest one, and the registry has the levels of all set-ups. -/
structure After (deeds : List Deed) (journal : Journal) : Prop where
  streams : journal.streams.length = (setUps deeds).length
  handlers : setUps deeds ≠ [] → journal.handlers = [.stream ((setUps deeds).length - 1)]
  writing : setUps deeds ≠ [] → journal.registry.writing = true
  root : ∀ level ∈ latestLevel? deeds, journal.registry.root = level
  own : ∀ name, journal.registry.ownLevel name = if name ∈ debuggedNames deeds then debug else 0

/-- A set-up gives the newest stream the only handler, whatever there was before. -/
theorem After.setUp (h : After deeds journal) (level : Int) {debugged : List String}
    (hnames : ∀ name ∈ debugged, ¬ Registry.isRoot name) :
    After (deeds ++ [.setUp level debugged]) (journal.setUp level debugged) := by
  obtain ⟨hroot, hwriting, hown⟩ :=
    Registry.foldl_setLevel hnames { journal.registry with root := level, writing := true } debug
  constructor
  case streams => simp [Journal.setUp, h.streams]
  case handlers => simp [Journal.setUp, h.streams]
  case writing => exact fun _ => hwriting
  case root =>
    simp only [latestLevel?, setUps_setUp, List.getLast?_concat, Option.map_some,
      Option.mem_some_iff]
    rintro _ rfl
    exact hroot
  case own =>
    intro name
    refine (hown name).trans ?_
    have hbefore := h.own name
    unfold Registry.ownLevel at *
    grind [debuggedNames, setUps_setUp]

/-- A call leaves everything but the streams as it is. -/
theorem After.write (h : After deeds journal) (time logger : String) (level : Int)
    (template : String) (values : List Json) (line : String) :
    After (deeds ++ [.call time logger level template values]) (journal.write line) := by
  constructor <;> simp only [latestLevel?, debuggedNames, setUps_call]
  case streams => rw [length_streams_write, h.streams]
  case handlers => exact h.handlers
  case writing => exact h.writing
  case root => exact h.root
  case own => exact h.own

/-- Whatever is done, the journal stands as the deeds say. -/
theorem after_performAll (hnames : ∀ name ∈ debuggedNames deeds, ¬ Registry.isRoot name) :
    After deeds (performAll deeds) := by
  induction deeds using List.reverseRecOn with
  | nil =>
      constructor <;> simp [setUps, latestLevel?, debuggedNames, performAll, Registry.ownLevel,
        Registry.initial]
  | append_singleton deeds deed ih =>
      rw [performAll_concat]
      cases deed with
      | setUp level debugged =>
          simp only [debuggedNames, setUps_setUp, List.flatMap_append, List.mem_append] at hnames
          refine (ih fun name h => hnames name (.inl h)).setUp level fun name h => hnames name ?_
          simp [h]
      | call time logger level template values =>
          simp only [debuggedNames, setUps_call] at hnames
          exact (ih hnames).write ..

/-- **Where records go.**  After any set-ups and calls, in any order, the root has one handler, that
of the latest set-up's stream.  A call that can be formatted writes one line to that stream or none
at all: one exactly if its level is positive and is not below the level for its logger.  Nothing
else that was written changes, nor does a set-up change it.  That level is the lowest one as soon as
the logger or an ancestor was named in any set-up; what covers a dotted name are these. -/
theorem performAll_writes (deeds : List Deed)
    (hnames : ∀ name ∈ debuggedNames deeds, ¬ Registry.isRoot name) :
    (setUps deeds = [] → (performAll deeds).streams = []) ∧
      (∀ name ∈ debuggedNames deeds, ∀ logger, IsDotted logger →
        (name ∈ Registry.lineage logger ↔ Covers name logger)) ∧
      ∀ rootLevel, latestLevel? deeds = some rootLevel →
        ∃ earlier latest, (performAll deeds).streams = earlier ++ [latest] ∧
          earlier.length + 1 = (setUps deeds).length ∧
          (performAll deeds).handlers = [.stream earlier.length] ∧
          (∀ level debugged, (performAll (deeds ++ [.setUp level debugged])).streams =
            earlier ++ [latest, ""]) ∧
          ∀ time logger level template values text,
            Registry.callText template values = .ok text →
            (performAll (deeds ++ [.call time logger level template values])).streams =
              earlier ++ [if 0 < level ∧ levelFor deeds rootLevel logger ≤ level then
                latest ++ Registry.line time ⟨logger, level, text⟩ else latest] := by
  have hafter := after_performAll hnames
  have hcovers : ∀ name ∈ debuggedNames deeds, ∀ logger, IsDotted logger →
      (name ∈ Registry.lineage logger ↔ Covers name logger) := by
    rintro name hname logger hlogger
    refine Registry.mem_lineage ?_ hlogger
    rintro rfl
    exact hnames "" hname rfl
  refine ⟨fun hnone => by simpa [hnone] using hafter.streams, hcovers, fun rootLevel hlevel => ?_⟩
  have hsome : setUps deeds ≠ [] := by
    intro hnone
    simp [latestLevel?, hnone] at hlevel
  have hcount := hafter.streams
  rcases List.eq_nil_or_concat' (performAll deeds).streams with hnone | ⟨earlier, latest, hstreams⟩
  · rw [hnone, List.length_nil, eq_comm, List.length_eq_zero_iff] at hcount
    exact absurd hcount hsome
  have hearlier : earlier.length + 1 = (setUps deeds).length := by simpa [hstreams] using hcount
  have hhandlers : (performAll deeds).handlers = [.stream earlier.length] := by
    rw [hafter.handlers hsome, ← hearlier, Nat.add_sub_cancel]
  refine ⟨earlier, latest, hstreams, hearlier, hhandlers, fun level debugged => ?_, ?_⟩
  · simp [performAll_concat, perform, Journal.setUp, hstreams]
  intro time logger level template values text htext
  have heffective : (performAll deeds).registry.effectiveLevel logger =
      levelFor deeds rootLevel logger := by
    rw [Registry.effectiveLevel_of_own hnames hafter.own, hafter.root _ hlevel, levelFor]
  rw [performAll_concat, perform, streams_write hstreams hhandlers, Registry.writeCall, htext]
  simp only [Registry.write, Registry.isEnabled, hafter.writing hsome, heffective, Bool.true_and,
    Bool.and_eq_true, decide_eq_true_eq]
  split
  · rfl
  · rw [String.append_empty]

/-- A logger is named at first, and later the level of the root falls. -/
def namedOnce : List Deed :=
  [.setUp warning ["a.b"], .call "T" "c" error "lost" [], .setUp info []]

/-- There a logger below the one that was named still has the lowest level. -/
theorem performAll_writes_namedOnce :
    (performAll (namedOnce ++ [.call "T" "a.b.c" debug "page %d" [.int 1]])).streams =
        ["T [ERROR] c: lost\n", "T [DEBUG] a.b.c: page 1\n"] ∧
      (performAll (namedOnce ++ [.call "T" "a.bc" debug "page" []])).streams =
        ["T [ERROR] c: lost\n", ""] := by
  have hnow : (performAll namedOnce).streams = ["T [ERROR] c: lost\n"] ++ [""] := by
    decide +kernel
  obtain ⟨earlier, latest, hstreams, -, -, -, hcalls⟩ :=
    (performAll_writes namedOnce (by decide +kernel)).2.2 info (by decide +kernel)
  obtain ⟨rfl, hlatest⟩ := List.append_inj' (hnow.symm.trans hstreams) rfl
  obtain rfl : "" = latest := by simpa using hlatest
  rw [hcalls "T" "a.b.c" debug "page %d" [.int 1] "page 1" (by decide +kernel),
    hcalls "T" "a.bc" debug "page" [] "page" (by decide +kernel)]
  decide +kernel

end Journal

end ServerBrowser.Log
