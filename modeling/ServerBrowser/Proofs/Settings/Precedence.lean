import ServerBrowser.Proofs.Settings.Merging

/-!
# ServerBrowser.Proofs.Settings.Precedence

Which source a value of the configuration is taken from.  Each value is looked for on its own: in
the configuration file, then in the environment, then in what the caller gives; what else there is
for it makes no difference (`Configuration.load_precedence`).

A source gives some values of a section, and so do two sources that are merged
(`SectionGives.orElse`).  From there on only the values that were found first matter
(`load_of_give`), and `Field` says for each what it may be.
-/

namespace ServerBrowser.Configuration

open Json Settings

/-! ## fields -/

/-- The sections of a configuration. -/
inductive Section where
  | master
  | logging
deriving DecidableEq

def Section.name : Section → String
  | master => "master"
  | logging => "logging"

/-- The names of the fields of a section. -/
def Section.fieldNames : Section → List String
  | master => masterFields
  | logging => loggingFields

/-- The values of a configuration. -/
inductive Field where
  | host
  | port
  | timeout
  | filterBudget
  | retryCount
  | retryDelay
  | region
  | level
deriving DecidableEq

namespace Field

/-- All fields, as they are declared. -/
def all : List Field :=
  [host, port, timeout, filterBudget, retryCount, retryDelay, region, level]

/-- The section of a field. -/
def home : Field → Section
  | level => .logging
  | _ => .master

def name : Field → String
  | host => "host"
  | port => "port"
  | timeout => "timeout"
  | filterBudget => "max_filter_length"
  | retryCount => "retry_count"
  | retryDelay => "retry_delay"
  | region => "region"
  | level => "level"

/-- Where complaints about a field point to. -/
def path (field : Field) : List String :=
  [field.home.name, field.name]

/-- The variable of a field, in small letters. -/
def variableName (field : Field) : String :=
  variableStart ++ field.home.name ++ "__" ++ field.name

/-- What a field holds. -/
def Value : Field → Type
  | host | level => String
  | port => Within 1 65535
  | timeout | retryDelay => Binary64
  | filterBudget => AtLeast 1
  | retryCount => Nat
  | region => Within 0 255

/-- Read the value of a field. -/
def read : (field : Field) → Json → Except Complaint.Reason field.Value
  | host => readText
  | port => readPort
  | timeout => readTimeout
  | filterBudget => readBudget
  | retryCount => readCount
  | retryDelay => readDelay
  | region => readRegion
  | level => readLevel

/-- What a configuration holds for a field. -/
def held (configuration : Configuration) : (field : Field) → field.Value
  | host => configuration.master.host
  | port => (⟨configuration.master.port, configuration.master.port_pos,
      Nat.le_of_lt_succ configuration.master.port_lt⟩ : Within 1 65535)
  | timeout => configuration.master.timeout
  | filterBudget =>
    (⟨configuration.master.filterBudget, configuration.master.filterBudget_pos⟩ : AtLeast 1)
  | retryCount => configuration.master.retryCount
  | retryDelay => configuration.master.retryDelay
  | region =>
    (⟨configuration.master.region, Nat.zero_le _, configuration.master.region_le⟩ : Within 0 255)
  | level => configuration.level

/-- What a field holds where nothing is given. -/
def standard (field : Field) : field.Value :=
  field.held {}

/-- Whether a value has the type of a field and is within its bounds. -/
def fits : Field → Json → Bool
  | host, .str _ => true
  | host, _ => false
  | port, value => (readWhole value).toOption.any fun n => 0 < n && n < 65536
  | timeout, value => (readReal value).toOption.any (·.isPositive)
  | filterBudget, value => (readWhole value).toOption.any fun n => 0 < n
  | retryCount, value => (readWhole value).toOption.any fun n => 0 ≤ n
  | retryDelay, value => (readReal value).toOption.any (·.isNonNegative)
  | region, value => (readWhole value).toOption.any fun n => 0 ≤ n && n ≤ 255
  | level, .str text => (Log.namedLevel? text).isSome
  | level, _ => false

/-- What is read and then checked. -/
theorem isOk_bind {α β : Type} {reading : Except Complaint.Reason α}
    {check : α → Except Complaint.Reason β} {good : α → Bool}
    (h : ∀ a, (check a).isOk = good a) :
    (reading >>= check).isOk = reading.toOption.any good := by
  cases reading with
  | error reason => rfl
  | ok a => exact h a

/-- **A value is read for a field exactly if it fits.** -/
theorem isOk_read (field : Field) (value : Json) : (field.read value).isOk = field.fits value := by
  cases field with
  | host => cases value <;> rfl
  | level =>
      cases value with
      | str text =>
          simp only [read, fits, readLevel]
          cases Log.namedLevel? text <;> rfl
      | _ => rfl
  | port | filterBudget | retryCount | region =>
      refine isOk_bind fun n => ?_
      split <;> (try split) <;> simp [Except.isOk, Except.toBool] <;> omega
  | timeout | retryDelay =>
      refine isOk_bind fun x => ?_
      split <;> simp_all [Except.isOk, Except.toBool]

end Field

/-! ## what sources give -/

/-- How members give a section some values, and no others of its fields: in an object under its
name, or not at all. -/
inductive GivesSection (members : Members) (values : Field → Option Json) (part : Section) : Prop
  | object {inner : Members} (found : find? members part.name = some (.obj inner))
    (distinct : (names inner).Nodup)
    (fields : ∀ field : Field, field.home = part → find? inner field.name = values field)
  | absent (unnamed : ∀ member ∈ members, sameName member.1 part.name = false)
    (nothing : ∀ field : Field, field.home = part → values field = none)

/-- How an environment gives some values: each by the variable of its field, in any case of letters.
There is no variable for a whole section, and none for anything within a value. -/
structure GivesVariables (environment : List (String × String)) (values : Field → Option String) :
    Prop where
  found : ∀ field : Field, find? (foldNames environment) field.variableName =
    (values field).map .str
  others : ∀ entry ∈ environment,
    (∃ field : Field, entry.1.toLower = field.variableName) ∨
      ∀ part : Section, entry.1.toLower ≠ variableStart ++ part.name ∧
        pathWithin? part.name entry.1.toLower = none

/-- How the sources of a configuration give values: the file, the environment and the caller. -/
structure Sources.Give (sources : Sources) (file : Field → Option Json)
    (environment : Field → Option String) (given : Field → Option Json) : Prop where
  file : ∃ members, readFile sources.file = .ok members ∧ ∀ part, GivesSection members file part
  environment : GivesVariables sources.environment environment
  given : ∀ part, GivesSection sources.given given part

/-- The members of a section, where it is there. -/
def membersIn (given : Option Json) : Members :=
  (given.map Json.members).getD []

/-- What a section gives that was found or merged, as far as fields are concerned that hold no
object. -/
structure SectionGives (part : Section) (given : Option Json) (values : Field → Option Json) :
    Prop where
  isObject : given = none ∨ given = some (.obj (membersIn given))
  fields : ∀ field : Field, field.home = part →
    Alike (find? (membersIn given) field.name) (values field)

variable {part : Section} {values others : Field → Option Json} {members : Members}
  {given other : Option Json}

/-- **Of two sources that are merged** each field is given by the first one that has it. -/
theorem SectionGives.orElse (h : SectionGives part given values)
    (hdistinct : (names (membersIn given)).Nodup) (h' : SectionGives part other others) :
    SectionGives part (orElse given other) fun field => values field <|> others field := by
  rcases h.isObject with rfl | hgiven
  · refine ⟨h'.isObject, fun field hfield => ?_⟩
    rw [(h.fields field hfield).of_none]
    exact h'.fields field hfield
  rcases h'.isObject with rfl | hother
  · rw [hgiven] at h ⊢
    refine ⟨.inr rfl, fun field hfield => ?_⟩
    have hvalues : (values field <|> others field) = values field := by
      simp [(h'.fields field hfield).of_none]
    rw [hvalues]
    exact h.fields field hfield
  · generalize membersIn given = first at hgiven hdistinct
    generalize membersIn other = second at hother
    subst hgiven hother
    refine ⟨.inr rfl, fun field hfield => ?_⟩
    have hfirst := h.fields field hfield
    have hsecond := h'.fields field hfield
    simp only [Configuration.orElse, merge, membersIn, Option.map_some, Option.getD_some,
      Json.members] at hfirst hsecond ⊢
    rw [find?_mergeMembers hdistinct]
    cases hvalue : find? first field.name with
    | none =>
        rw [hvalue] at hfirst
        rw [hfirst.of_none]
        exact hsecond
    | some value =>
        rw [hvalue] at hfirst
        obtain ⟨value', hvalue'⟩ := hfirst.of_some
        have hvalues : (values field <|> others field) = values field := by simp [hvalue']
        rw [hvalues]
        cases find? second field.name with
        | none => exact hfirst
        | some value => exact (alike_merge _ _).trans hfirst

/-- What members give is found in them. -/
theorem GivesSection.sectionGives (h : GivesSection members values part) :
    SectionGives part (sectionOf? members part.name) values ∧
      (names (membersIn (sectionOf? members part.name))).Nodup := by
  cases h with
  | @object inner found distinct fields =>
      have hsection : sectionOf? members part.name = some (.obj inner) := by
        simp [sectionOf?, found]
      rw [hsection]
      exact ⟨⟨.inr rfl, fun field hfield => .inl (fields field hfield)⟩, distinct⟩
  | absent unnamed nothing =>
      have hnone : find? members part.name = none := by
        apply find?_of_not_mem
        intro hmem
        obtain ⟨member, hmember, hname⟩ := List.mem_map.1 hmem
        have := unnamed member hmember
        simp [hname, sameName] at this
      have hfind : (members.find? fun member => sameName member.1 part.name) = none := by
        simpa using unnamed
      have hsection : sectionOf? members part.name = none := by
        simp [sectionOf?, hnone, hfind]
      rw [hsection]
      exact ⟨⟨.inl rfl, fun field hfield => .inl (nothing field hfield).symm⟩, List.nodup_nil⟩

/-! ## the environment -/

section Environment

variable {environment : List (String × String)} {texts : Field → Option String}

theorem nodup_foldNames (environment : List (String × String)) :
    (names (foldNames environment)).Nodup :=
  List.foldlRecOn (motive := fun members => (names members).Nodup) environment _ List.nodup_nil
    fun _ h entry _ => nodup_insert h entry.1.toLower _

theorem exists_of_mem_foldNames {name : String} (h : name ∈ names (foldNames environment)) :
    ∃ entry ∈ environment, entry.1.toLower = name := by
  revert h
  refine List.foldlRecOn (motive := fun members => name ∈ names members →
    ∃ entry ∈ environment, entry.1.toLower = name) environment _ (by simp) ?_
  intro members ih entry hmem h
  rcases (mem_names_insert _ _ _ _).1 h with rfl | h
  · exact ⟨entry, hmem, rfl⟩
  · exact ih h

/-- A variable of a field is within the section of the field, and within no other one. -/
theorem pathWithin?_variableName (part : Section) (field : Field) :
    pathWithin? part.name field.variableName =
      if field.home = part then some [field.name] else none := by
  cases part <;> cases field <;> decide +kernel

theorem variableName_ne (part : Section) (field : Field) :
    field.variableName ≠ variableStart ++ part.name := by
  cases part <;> cases field <;> decide +kernel

/-- The name of a field is spelled as it is. -/
theorem spelled_name (field : Field) :
    (field.home.fieldNames.find? (sameName · field.name)).getD field.name = field.name := by
  cases field <;> decide +kernel

theorem Field.name_injective {field other : Field} (h : field.name = other.name) :
    field = other := by
  cases field <;> cases other <;> first | rfl | exact absurd h (by decide)

/-- A variable is one of a field, or it says nothing about a section. -/
theorem GivesVariables.pathWithin? (h : GivesVariables environment texts) (part : Section)
    {name : String} (hname : name ∈ names (foldNames environment)) :
    (∃ field : Field, name = field.variableName) ∨ Settings.pathWithin? part.name name = none := by
  obtain ⟨entry, hmem, rfl⟩ := exists_of_mem_foldNames hname
  rcases h.others entry hmem with hfield | hother
  · exact .inl hfield
  · exact .inr (hother part).2

/-- The members of a section are those of its fields, each with the text of its variable. -/
theorem GivesVariables.find?_nested (h : GivesVariables environment texts) (field : Field) :
    find? (nestedMembers (foldNames environment) field.home.name) field.name =
      (texts field).map .str := by
  refine (find?_foldl _ field.variableName field.name (nodup_foldNames environment) ?_ ?_ []).trans
    ?_
  · intro before value
    simp [pathWithin?_variableName, insertAt, find?_insert]
  · intro before member hmember hne
    rcases h.pathWithin? field.home (List.mem_map_of_mem hmember) with ⟨other, hother⟩ | hnone
    · have hnames : other.name ≠ field.name := by
        rintro hname
        exact hne (hother.trans (congrArg _ (Field.name_injective hname)))
      by_cases hhome : other.home = field.home
      · simp [hother, pathWithin?_variableName, hhome, insertAt, find?_insert, hnames]
      · simp [hother, pathWithin?_variableName, hhome]
    · simp [hnone]
  · rw [h.found]
    cases texts field <;> rfl

/-- No others have a part in a section. -/
theorem GivesVariables.exists_of_mem_nested (h : GivesVariables environment texts) {part : Section}
    {name : String} (hname : name ∈ names (nestedMembers (foldNames environment) part.name)) :
    ∃ field : Field, field.home = part ∧ field.name = name := by
  revert hname
  refine List.foldlRecOn (motive := fun members => name ∈ names members →
    ∃ field : Field, field.home = part ∧ field.name = name) _ _ (by simp) ?_
  intro members ih member hmember
  rcases h.pathWithin? part (List.mem_map_of_mem hmember) with ⟨other, hother⟩ | hnone
  · by_cases hhome : other.home = part
    · simp only [hother, pathWithin?_variableName, hhome, if_true, insertAt, mem_names_insert]
      rintro (rfl | hmem)
      · exact ⟨other, hhome, rfl⟩
      · exact ih hmem
    · simpa [hother, pathWithin?_variableName, hhome] using ih
  · simpa [hnone] using ih

theorem GivesVariables.nodup_nested (h : GivesVariables environment texts) (part : Section) :
    (names (nestedMembers (foldNames environment) part.name)).Nodup := by
  refine List.foldlRecOn (motive := fun members => (names members).Nodup) _ _ List.nodup_nil ?_
  intro members hmembers member hmember
  rcases h.pathWithin? part (List.mem_map_of_mem hmember) with ⟨other, hother⟩ | hnone
  · by_cases hhome : other.home = part
    · simpa [hother, pathWithin?_variableName, hhome, insertAt] using nodup_insert hmembers _ _
    · simpa [hother, pathWithin?_variableName, hhome] using hmembers
  · simpa [hnone] using hmembers

/-- Names that are those of fields stay as they are spelled. -/
theorem find?_spellFields {part : Section} {members : Members} (hdistinct : (names members).Nodup)
    (hnames : ∀ name ∈ names members, ∃ field : Field, field.home = part ∧ field.name = name)
    {field : Field} (hfield : field.home = part) :
    find? (spellFields part.fieldNames members) field.name = find? members field.name := by
  subst hfield
  refine (find?_foldl _ field.name field.name hdistinct ?_ ?_ []).trans ?_
  · intro before value
    simp [spelled_name, find?_insert]
  · intro before ⟨name, value⟩ hmember hne
    obtain ⟨other, hhome, rfl⟩ := hnames name (List.mem_map_of_mem hmember)
    have hspelled : (field.home.fieldNames.find? (sameName · other.name)).getD other.name =
        other.name := by
      rw [← hhome, spelled_name]
    simp only [hspelled, find?_insert, if_neg hne]
  · cases find? members field.name <;> rfl

/-- **The environment gives a section what the variables of its fields hold.** -/
theorem GivesVariables.sectionGives (h : GivesVariables environment texts) (part : Section) :
    ∃ given, environmentSection (foldNames environment) part.name part.fieldNames = .ok given ∧
      SectionGives part given (fun field => (texts field).map .str) ∧
      (names (membersIn given)).Nodup := by
  have hown : find? (foldNames environment) (variableStart ++ part.name) = none := by
    apply find?_of_not_mem
    intro hmem
    obtain ⟨entry, hvariable, hname⟩ := exists_of_mem_foldNames hmem
    rcases h.others entry hvariable with ⟨field, hfield⟩ | hother
    · exact variableName_ne part field (hfield.symm.trans hname)
    · exact (hother part).1 hname
  let nested := nestedMembers (foldNames environment) part.name
  let given := if nested.isEmpty then none else some (Json.obj (spellFields part.fieldNames nested))
  have hgiven : given = none ∨ given = some (.obj (membersIn given)) := by
    by_cases hempty : nested.isEmpty <;> simp [given, hempty, membersIn, Json.members]
  have hmembers : membersIn given = spellFields part.fieldNames nested := by
    by_cases hempty : nested.isEmpty
    · simp [given, membersIn, List.isEmpty_iff.1 hempty, spellFields]
    · simp [given, hempty, membersIn, Json.members]
  have hdistinct : (names (membersIn given)).Nodup := by
    rw [hmembers]
    exact List.foldlRecOn (motive := fun members => (names members).Nodup) _ _ List.nodup_nil
      fun _ hnodup member _ => nodup_insert hnodup _ _
  refine ⟨given, ?_, ⟨hgiven, fun field hfield => .inl ?_⟩, hdistinct⟩
  · simp [environmentSection, hown, given, nested]
    rfl
  · subst hfield
    rw [hmembers, find?_spellFields (h.nodup_nested _) (fun _ => h.exists_of_mem_nested) rfl,
      h.find?_nested]

end Environment

/-! ## readings -/

namespace Field

/-- What is read for a field that may be given. -/
def checked (field : Field) : Option Json → Checked field.Value
  | none => .ok field.standard
  | some value => (field.read value).mapError fun reason => [⟨[field.name], reason⟩]

/-- No field holds an object, and it makes no difference what is in one. -/
theorem checked_of_alike (field : Field) {first second : Option Json} (h : Alike first second) :
    field.checked first = field.checked second := by
  rcases h with rfl | ⟨members, members', rfl, rfl⟩
  · rfl
  · cases field <;> rfl

end Field

/-- A section of which each field is read as a configuration holds it is read as that. -/
theorem ofMembers_of_held {members : Members} {configuration : Configuration}
    (h : ∀ field : Field, field.home = .master →
      field.checked (find? members field.name) = .ok (field.held configuration)) :
    ofMembers members = .ok configuration.master :=
  congrArg (Except.map _) (Checked.both_eq_ok_iff.2 ⟨h .host rfl,
    Checked.both_eq_ok_iff.2 ⟨h .port rfl, Checked.both_eq_ok_iff.2 ⟨h .timeout rfl,
      Checked.both_eq_ok_iff.2 ⟨h .filterBudget rfl, Checked.both_eq_ok_iff.2 ⟨h .retryCount rfl,
        Checked.both_eq_ok_iff.2 ⟨h .retryDelay rfl, h .region rfl⟩⟩⟩⟩⟩⟩)

/-- Sections of which each field is read alike are read alike. -/
theorem ofMembers_congr {members members' : Members}
    (h : ∀ field : Field, field.home = .master →
      field.checked (find? members field.name) = field.checked (find? members' field.name)) :
    ofMembers members = ofMembers members' :=
  congrArg (Except.map _) (congrArg₂ Checked.both (h .host rfl)
    (congrArg₂ Checked.both (h .port rfl) (congrArg₂ Checked.both (h .timeout rfl)
      (congrArg₂ Checked.both (h .filterBudget rfl) (congrArg₂ Checked.both (h .retryCount rfl)
        (congrArg₂ Checked.both (h .retryDelay rfl) (h .region rfl)))))))

theorem complaints_map {α β : Type} (f : α → β) (reading : Checked α) :
    Checked.complaints (reading.map f) = reading.complaints := by
  cases reading <;> rfl

/-- A complaint as it is told from one level further up. -/
def raise (name : String) (complaint : Complaint) : Complaint :=
  { complaint with path := name :: complaint.path }

theorem complaints_under {α : Type} (name : String) (reading : Checked α) :
    (reading.under name).complaints = reading.complaints.map (raise name) := by
  cases reading <;> rfl

/-- **All complaints** are those about the fields, in their order. -/
theorem complaints_both_sections (members : Section → Members) :
    (((ofMembers (members .master)).under "master").both
        ((levelOfMembers (members .logging)).under "logging")).complaints =
      Field.all.flatMap fun field =>
        (field.checked (find? (members field.home) field.name)).complaints.map
          (raise field.home.name) := by
  rw [Checked.complaints_both, complaints_under, complaints_under, ofMembers, complaints_map]
  simp only [Checked.complaints_both, List.map_append, List.append_assoc]
  simp only [Field.all, List.flatMap_cons, List.flatMap_nil, List.append_nil]
  rfl

/-! ## precedence -/

/-- The value that a field is read from: that of the file, else that of the environment, else that
of the caller. -/
def chosen (file : Field → Option Json) (environment : Field → Option String)
    (given : Field → Option Json) (field : Field) : Option Json :=
  file field <|> (environment field).map .str <|> given field

/-- The fields for which a value was chosen that does not fit, as they are declared. -/
def misfits (choice : Field → Option Json) : List Field :=
  Field.all.filter fun field => (choice field).any fun value => !field.fits value

/-- What is wrong about the value that was chosen for a field. -/
def reasonFor (choice : Field → Option Json) (field : Field) : Complaint.Reason :=
  match (choice field).map field.read with
  | some (.error reason) => reason
  | _ => .notText

/-- There is one complaint about a field, or none. -/
theorem complaints_checked (choice : Field → Option Json) (field : Field) :
    (field.checked (choice field)).complaints.map (raise field.home.name) =
      if (choice field).any fun value => !field.fits value then
        [⟨field.path, reasonFor choice field⟩]
      else [] := by
  cases hchoice : choice field with
  | none => rfl
  | some value =>
      have hfits := field.isOk_read value
      rw [Option.any_some, ← hfits]
      cases hread : field.read value with
      | ok x =>
          simp [Field.checked, hread, Except.mapError, Checked.complaints, Except.isOk,
            Except.toBool]
      | error reason =>
          simp [Field.checked, hread, Except.mapError, Checked.complaints, Except.isOk,
            Except.toBool, raise, Field.path, reasonFor, hchoice]

/-- All complaints are those about the fields whose values do not fit. -/
theorem flatMap_complaints (choice : Field → Option Json) (fields : List Field) :
    (fields.flatMap fun field =>
        (field.checked (choice field)).complaints.map (raise field.home.name)) =
      (fields.filter fun field => (choice field).any fun value => !field.fits value).map
        fun field => ⟨field.path, reasonFor choice field⟩ := by
  induction fields with
  | nil => rfl
  | cons field fields ih =>
      rw [List.flatMap_cons, ih, complaints_checked, List.filter_cons]
      split <;> rfl

/-- Where every value fits, a configuration holds what is read. -/
theorem exists_held {choice : Field → Option Json} (h : misfits choice = []) :
    ∃ configuration : Configuration, ∀ field : Field,
      field.checked (choice field) = .ok (field.held configuration) := by
  have hread : ∀ field : Field, ∃ x, field.checked (choice field) = .ok x := by
    intro field
    have hfits := List.filter_eq_nil_iff.1 h field (by cases field <;> decide)
    cases hchoice : choice field with
    | none => exact ⟨_, rfl⟩
    | some value =>
        rw [hchoice, Option.any_some, ← field.isOk_read] at hfits
        cases hread : field.read value with
        | ok x => exact ⟨x, by simp [Field.checked, hread, Except.mapError]⟩
        | error reason => simp [hread, Except.isOk, Except.toBool] at hfits
  choose x hx using hread
  let port : Within 1 65535 := x .port
  let budget : AtLeast 1 := x .filterBudget
  let region : Within 0 255 := x .region
  refine ⟨{
    master := {
      host := x .host
      port := port.val
      timeout := x .timeout
      filterBudget := budget.val
      retryCount := x .retryCount
      retryDelay := x .retryDelay
      region := region.val
      port_pos := port.property.1
      port_lt := Nat.lt_succ_of_le port.property.2
      filterBudget_pos := budget.property
      region_le := region.property.2 }
    level := x .level }, fun field => ?_⟩
  rw [hx field]
  cases field <;> rfl

/-- The members of a section are read as the fields are chosen. -/
theorem readSection_of_gives {α : Type} {part : Section} {given : Option Json}
    {values : Field → Option Json} {fallback : α} {read : Members → Checked α}
    (h : SectionGives part given values) (hempty : read [] = .ok fallback) :
    readSection part.name fallback read given = (read (membersIn given)).under part.name := by
  rcases h.isObject with rfl | hgiven
  · simp [readSection, membersIn, hempty, Checked.under]
  · rw [hgiven]
    rfl

/-- A configuration, or why there is none, where its sections are read from members. -/
def loadFrom (members : Section → Members) : Except Failure Configuration :=
  match ((ofMembers (members .master)).under "master").both
      ((levelOfMembers (members .logging)).under "logging") with
  | .ok (master, level) => .ok { master, level }
  | .error complaints => .error (.invalid complaints)

/-- **All that matters about sources** is the value that each field is read from. -/
theorem load_of_give {sources : Sources} {file given : Field → Option Json}
    {environment : Field → Option String} (h : sources.Give file environment given) :
    ∃ members : Section → Members, load sources = loadFrom members ∧
      ∀ field : Field, field.checked (find? (members field.home) field.name) =
        field.checked (chosen file environment given field) := by
  obtain ⟨fileMembers, hread, hfile⟩ := h.file
  choose fromVariables hvariables hgives hdistinct using h.environment.sectionGives
  let merged (part : Section) : Option Json :=
    orElse (sectionOf? fileMembers part.name)
      (orElse (fromVariables part) (sectionOf? sources.given part.name))
  have hmerged (part : Section) :
      SectionGives part (merged part) (chosen file environment given) := by
    obtain ⟨hfirst, hnodup⟩ := (hfile part).sectionGives
    exact hfirst.orElse hnodup ((hgives part).orElse (hdistinct part) (h.given part).sectionGives.1)
  refine ⟨fun part => membersIn (merged part), ?_, fun field =>
    field.checked_of_alike ((hmerged field.home).fields field rfl)⟩
  have hmaster : readSection "master" .standard ofMembers (merged .master) = _ :=
    readSection_of_gives (hmerged .master) rfl
  have hlogging : readSection "logging" "INFO" levelOfMembers (merged .logging) = _ :=
    readSection_of_gives (hmerged .logging) rfl
  have hmasterVariables : environmentSection (foldNames sources.environment) "master" masterFields =
    .ok (fromVariables .master) := hvariables .master
  have hloggingVariables : environmentSection (foldNames sources.environment) "logging"
    loggingFields = .ok (fromVariables .logging) := hvariables .logging
  simp only [load, hread, hmasterVariables, hloggingVariables, Except.mapError, bind, Except.bind]
  show (match (readSection "master" .standard ofMembers (merged .master)).both
      (readSection "logging" "INFO" levelOfMembers (merged .logging)) with
    | .ok (master, level) => Except.ok (Configuration.mk master level)
    | .error complaints => Except.error (Failure.invalid complaints)) = _
  rw [hmaster, hlogging]
  rfl

/-- Sources that give the same values, as far as they are chosen, give the same configuration. -/
theorem loadFrom_congr {members members' : Section → Members}
    (h : ∀ field : Field, field.checked (find? (members field.home) field.name) =
      field.checked (find? (members' field.home) field.name)) :
    loadFrom members = loadFrom members' := by
  have hmaster : ofMembers (members .master) = ofMembers (members' .master) :=
    ofMembers_congr fun field hfield => hfield ▸ h field
  have hlogging : levelOfMembers (members .logging) = levelOfMembers (members' .logging) :=
    h .level
  rw [loadFrom, loadFrom, hmaster, hlogging]

/-- **Precedence is field by field.**  Of the file, the environment and the caller, each giving any
values, every field is read from the first one that gives it, and is the default where none does.
There is no configuration exactly if one of the values so chosen does not fit its field, and then
there is one complaint for each such field, in the order in which fields are declared.  Nothing else
matters: whatever other values there are, the result is the same. -/
theorem load_precedence {sources : Sources} {file given : Field → Option Json}
    {environment : Field → Option String} (h : sources.Give file environment given) :
    (misfits (chosen file environment given) = [] →
      ∃ configuration, load sources = .ok configuration ∧ ∀ field : Field,
        match chosen file environment given field with
        | some value => field.read value = .ok (field.held configuration)
        | none => field.held configuration = field.standard) ∧
    (misfits (chosen file environment given) ≠ [] →
      load sources = .error (.invalid ((misfits (chosen file environment given)).map fun field =>
        ⟨field.path, reasonFor (chosen file environment given) field⟩))) ∧
    ∀ sources' file' environment' given', Sources.Give sources' file' environment' given' →
      chosen file' environment' given' = chosen file environment given →
        load sources' = load sources := by
  obtain ⟨members, hload, hmembers⟩ := load_of_give h
  refine ⟨fun hfit => ?_, fun hmisfit => ?_, fun sources' _ _ _ h' hchosen => ?_⟩
  · obtain ⟨configuration, hheld⟩ := exists_held hfit
    have hmaster : ofMembers (members .master) = .ok configuration.master :=
      ofMembers_of_held fun field hfield => by
        rw [← hfield, hmembers, hheld]
    have hlogging : levelOfMembers (members .logging) = .ok configuration.level :=
      (hmembers .level).trans (hheld .level)
    refine ⟨configuration, by rw [hload, loadFrom, hmaster, hlogging]; rfl, fun field => ?_⟩
    have hfield := hheld field
    cases hchoice : chosen file environment given field with
    | none =>
        rw [hchoice] at hfield
        exact (Except.ok.inj hfield).symm
    | some value =>
        rw [hchoice, Field.checked] at hfield
        cases hread : field.read value with
        | error reason => simp [hread, Except.mapError] at hfield
        | ok x => simpa [hread, Except.mapError] using hfield
  · have hcomplaints := complaints_both_sections members
    simp only [hmembers] at hcomplaints
    rw [flatMap_complaints] at hcomplaints
    rw [hload, loadFrom, misfits, ← hcomplaints]
    cases hboth : ((ofMembers (members .master)).under "master").both
        ((levelOfMembers (members .logging)).under "logging") with
    | error complaints => rfl
    | ok held =>
        rw [hboth, Checked.complaints, eq_comm, List.map_eq_nil_iff] at hcomplaints
        exact absurd hcomplaints hmisfit
  · obtain ⟨members', hload', hmembers'⟩ := load_of_give h'
    rw [hload, hload']
    exact loadFrom_congr fun field => by rw [hmembers', hmembers, hchosen]

/-! ## three sources -/

/-- What members give for a field. -/
def givenBy (members : Members) (field : Field) : Option Json :=
  find? (membersIn (find? members field.home.name)) field.name

/-- Whether a section is an object with distinct names, or is not there. -/
def isSection (members : Members) (part : Section) : Bool :=
  match find? members part.name with
  | some (.obj inner) => decide (names inner).Nodup
  | some _ => false
  | none => members.all fun member => !sameName member.1 part.name

theorem GivesSection.of_isSection {members : Members} {part : Section}
    (h : isSection members part = true) : GivesSection members (givenBy members) part := by
  unfold isSection at h
  split at h
  · next inner hfound =>
    refine .object hfound (by simpa using h) fun field hfield => ?_
    subst hfield
    rw [givenBy, hfound]
    rfl
  · cases h
  · next hfound =>
    refine .absent (by simpa using h) fun field hfield => ?_
    subst hfield
    rw [givenBy, hfound]
    rfl

/-- Three sources with a port, of which only that of the file fits, and two with a host. -/
def mixed : Sources where
  file := some "\x7b\"master\": \x7b\"port\": 27012\x7d\x7d"
  environment := [("MASTERQUERY_MASTER__PORT", "none"), ("Masterquery_Master__Host", "example")]
  given := [("master", .obj [("port", .int (-1)), ("host", .null), ("retry_count", .int 9)])]

/-- What the environment gives there. -/
def mixedTexts : Field → Option String
  | .port => some "none"
  | .host => some "example"
  | _ => none

theorem givesVariables_mixed : GivesVariables mixed.environment mixedTexts := by
  have hport : "MASTERQUERY_MASTER__PORT".toLower = Field.port.variableName := by decide +kernel
  have hhost : "Masterquery_Master__Host".toLower = Field.host.variableName := by decide +kernel
  have hne : Field.port.variableName ≠ Field.host.variableName := by decide +kernel
  constructor
  case found =>
    intro field
    cases field <;>
      simp [mixed, mixedTexts, foldNames, hport, hhost, Json.insert, find?, hne] <;> decide +kernel
  case others =>
    simp only [mixed, List.forall_mem_cons]
    exact ⟨.inl ⟨_, hport⟩, .inl ⟨_, hhost⟩, by simp⟩

/-- What is in the file there. -/
def mixedMembers : Members :=
  (readFile mixed.file).toOption.getD []

theorem readFile_mixed : readFile mixed.file = .ok mixedMembers := by
  have hok : (readFile mixed.file).isOk = true := by decide +kernel
  unfold mixedMembers
  generalize readFile mixed.file = result at hok
  cases result with
  | error failure => cases hok
  | ok members => rfl

theorem give_mixed : mixed.Give (givenBy mixedMembers) mixedTexts (givenBy mixed.given) where
  file := by
    refine ⟨mixedMembers, readFile_mixed, fun part => GivesSection.of_isSection ?_⟩
    cases part <;> decide +kernel
  environment := givesVariables_mixed
  given part := by
    apply GivesSection.of_isSection
    cases part <;> decide +kernel

/-- The configuration that these sources give. -/
theorem load_precedence_mixed :
    misfits (chosen (givenBy mixedMembers) mixedTexts (givenBy mixed.given)) = [] ∧
      ∃ configuration, load mixed = .ok configuration ∧
        configuration = { master := { host := "example", port := 27012, retryCount := 9 } } := by
  have hfit : misfits (chosen (givenBy mixedMembers) mixedTexts (givenBy mixed.given)) = [] := by
    decide +kernel
  obtain ⟨configuration, hload, -⟩ := (load_precedence give_mixed).1 hfit
  have hresult : load mixed =
      .ok { master := { host := "example", port := 27012, retryCount := 9 } } := by decide +kernel
  exact ⟨hfit, configuration, hload, Except.ok.inj (hload.symm.trans hresult)⟩

end ServerBrowser.Configuration
