import ServerBrowser.Settings.Configuration

/-!
# ServerBrowser.Proofs.Settings

What a configuration that was accepted keeps.  The defaults satisfy what is asked of the members of
each field, and so does whatever is read (`Settings.readMember_holds`).  So the two times are within
their bounds, and the level has a number (`Configuration.load_accepted`).
-/

namespace ServerBrowser

namespace Settings

variable {α : Type} {members : Json.Members} {value : Json} {x : Binary64}

/-- What the default of a field and every value that is read for it satisfy, the field satisfies. -/
theorem readMember_holds (holds : α → Prop) {name : String} {default a : α}
    {read : Json → Except Complaint.Reason α} (hdefault : holds default)
    (hread : ∀ value a, read value = .ok a → holds a)
    (h : readMember members name default read = .ok a) : holds a := by
  rw [readMember] at h
  cases hfound : Json.find? members name with
  | none =>
      rw [hfound] at h
      cases h
      exact hdefault
  | some value =>
      rw [hfound] at h
      cases hvalue : read value with
      | error reason =>
          simp only [hvalue] at h
          cases h
      | ok b =>
          simp only [hvalue] at h
          cases h
          exact hread value a hvalue

theorem isPositive_of_readTimeout (h : readTimeout value = .ok x) : x.isPositive = true := by
  rw [readTimeout] at h
  cases hreal : readReal value with
  | error reason => rw [hreal] at h; cases h
  | ok y =>
      simp only [hreal, bind, Except.bind] at h
      split at h
      · next hpositive => cases h; exact hpositive
      · cases h

theorem isNonNegative_of_readDelay (h : readDelay value = .ok x) : x.isNonNegative = true := by
  rw [readDelay] at h
  cases hreal : readReal value with
  | error reason => rw [hreal] at h; cases h
  | ok y =>
      simp only [hreal, bind, Except.bind] at h
      split at h
      · next hnonneg => cases h; exact hnonneg
      · cases h

/-- **The times of settings that are accepted are within their bounds.** -/
theorem isPaced_of_ofMembers {settings : Settings} (h : ofMembers members = .ok settings) :
    settings.IsPaced := by
  rw [ofMembers] at h
  simp only [Except.map] at h
  split at h
  · cases h
  · next fields hfields =>
    obtain ⟨host, port, timeout, budget, count, delay, region⟩ := fields
    simp only [Checked.both_eq_ok_iff] at hfields
    obtain ⟨-, -, htimeout, -, -, hdelay, -⟩ := hfields
    cases h
    exact ⟨readMember_holds (·.isPositive = true) isPaced_standard.1
        (fun _ _ => isPositive_of_readTimeout) htimeout,
      readMember_holds (·.isNonNegative = true) isPaced_standard.2
        (fun _ _ => isNonNegative_of_readDelay) hdelay⟩

/-- A level name that is accepted is kept in capitals, and still names its level. -/
theorem level_of_readLevel {name : String} (h : readLevel value = .ok name) :
    ∃ number, Log.level name = .ok number := by
  have hnames : ∀ entry ∈ Log.levelNames, Log.namedLevel? entry.1 = some entry := by decide
  cases value with
  | str text =>
      rw [readLevel] at h
      cases hnamed : Log.namedLevel? text with
      | none => rw [hnamed] at h; cases h
      | some entry =>
          rw [hnamed] at h
          cases h
          refine ⟨entry.2, ?_⟩
          rw [Log.level, hnames entry (List.mem_of_find?_eq_some hnamed)]
  | _ => cases h

theorem level_of_levelOfMembers {name : String} (h : levelOfMembers members = .ok name) :
    ∃ number, Log.level name = .ok number :=
  readMember_holds (fun name => ∃ number, Log.level name = .ok number) ⟨Log.info, rfl⟩
    (fun _ _ => level_of_readLevel) h

end Settings

namespace Configuration

/-- What the fallback of a section and everything that is read for it satisfy, the section
satisfies. -/
theorem readSection_holds {α : Type} (holds : α → Prop) {name : String} {fallback a : α}
    {read : Json.Members → Checked α} (hfallback : holds fallback)
    (hread : ∀ members a, read members = .ok a → holds a) {given : Option Json}
    (h : readSection name fallback read given = .ok a) : holds a := by
  cases given with
  | none =>
      cases h
      exact hfallback
  | some value =>
      cases value with
      | obj members =>
          rw [readSection] at h
          cases hmembers : read members with
          | error complaints => rw [hmembers] at h; cases h
          | ok b =>
              rw [hmembers] at h
              cases h
              exact hread members a hmembers
      | _ => cases h

/-- **A configuration that is accepted** has times within their bounds and a level that is one. -/
theorem load_accepted {sources : Sources} {configuration : Configuration}
    (h : load sources = .ok configuration) :
    configuration.master.IsPaced ∧ ∃ number, Log.level configuration.level = .ok number := by
  simp only [load, bind, Except.bind] at h
  split at h
  · cases h
  split at h
  · cases h
  split at h
  · cases h
  split at h
  · next master level hboth =>
    obtain ⟨hmaster, hlevel⟩ := Checked.both_eq_ok_iff.1 hboth
    cases h
    exact ⟨readSection_holds (·.IsPaced) Settings.isPaced_standard
        (fun _ _ => Settings.isPaced_of_ofMembers) hmaster,
      readSection_holds (fun name => ∃ number, Log.level name = .ok number) ⟨Log.info, rfl⟩
        (fun _ _ => Settings.level_of_levelOfMembers) hlevel⟩
  · cases h

end Configuration

end ServerBrowser
