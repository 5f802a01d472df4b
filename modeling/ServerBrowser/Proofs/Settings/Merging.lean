import Mathlib.Data.List.Nodup
import ServerBrowser.Settings.Configuration

/-!
# ServerBrowser.Proofs.Settings.Merging

What is found in members that were put together.  Where names are distinct, each name is found with
the value that it was given (`Json.find?_foldl`), and after a merge with the merged value
(`Settings.find?_mergeMembers`).  A merge goes on inside only where both values are objects, so the
merged value is like the first one (`Settings.alike_merge`).
-/

namespace ServerBrowser

namespace Json

variable {members : Members} {name : String}

/-- The names of members. -/
def names (members : Members) : List String :=
  members.map (·.1)

@[simp] theorem names_nil : names [] = [] := rfl

@[simp] theorem names_cons (name : String) (value : Json) (members : Members) :
    names ((name, value) :: members) = name :: names members := rfl

theorem find?_of_not_mem (h : name ∉ names members) : find? members name = none := by
  induction members with
  | nil => rfl
  | cons member members ih =>
      obtain ⟨other, value⟩ := member
      simp only [names_cons, List.mem_cons, not_or] at h
      rw [find?, if_neg (Ne.symm h.1), ih h.2]

@[simp] theorem mem_names_insert (members : Members) (name other : String) (value : Json) :
    other ∈ names (insert members name value) ↔ other = name ∨ other ∈ names members := by
  induction members with
  | nil => simp [insert]
  | cons member members ih =>
      obtain ⟨first, old⟩ := member
      by_cases h : first = name
      · simp [insert, h]
      · simp [insert, h, ih]
        tauto

theorem nodup_insert (h : (names members).Nodup) (name : String) (value : Json) :
    (names (insert members name value)).Nodup := by
  induction members with
  | nil => simp [insert]
  | cons member members ih =>
      obtain ⟨first, old⟩ := member
      rw [names_cons, List.nodup_cons] at h
      by_cases hfirst : first = name
      · subst hfirst
        simpa [insert] using h
      · simpa [insert, hfirst] using ⟨h.1, ih h.2⟩

/-- **What is found after all members of a row have had their turn**, if only one of them has a part
in it. -/
theorem find?_foldl (step : Members → String × Json → Members) (source target : String)
    (hnodup : (names members).Nodup)
    (hhere : ∀ before value, find? (step before (source, value)) target = some value)
    (helse : ∀ before, ∀ member ∈ members, member.1 ≠ source →
      find? (step before member) target = find? before target) (before : Members) :
    find? (members.foldl step before) target = (find? members source <|> find? before target) := by
  induction members generalizing before with
  | nil => rfl
  | cons member members ih =>
      obtain ⟨other, value⟩ := member
      rw [names_cons, List.nodup_cons] at hnodup
      rw [List.foldl_cons, ih hnodup.2 fun before member h => helse before member (by simp [h])]
      by_cases hother : other = source
      · subst hother
        rw [find?_of_not_mem hnodup.1, hhere, find?, if_pos rfl]
        rfl
      · rw [helse before _ (by simp) hother, find?, if_neg hother]

end Json

namespace Settings

open Json

/-- Whether two values are the same for whoever reads no object. -/
def Alike (first second : Option Json) : Prop :=
  first = second ∨ ∃ members members', first = some (.obj members) ∧ second = some (.obj members')

theorem Alike.trans {first second third : Option Json} (h : Alike first second)
    (h' : Alike second third) : Alike first third := by
  rcases h with rfl | ⟨members, members', rfl, rfl⟩
  · exact h'
  · rcases h' with rfl | ⟨members', members'', hobj, rfl⟩
    · exact .inr ⟨_, _, rfl, rfl⟩
    · exact .inr ⟨_, _, rfl, rfl⟩

theorem Alike.of_none {value : Option Json} (h : Alike none value) : value = none := by
  rcases h with rfl | ⟨members, members', hobj, -⟩
  · rfl
  · cases hobj

theorem Alike.of_some {value : Json} {other : Option Json} (h : Alike (some value) other) :
    ∃ value', other = some value' := by
  rcases h with rfl | ⟨members, members', -, rfl⟩
  · exact ⟨value, rfl⟩
  · exact ⟨_, rfl⟩

/-- A merged value is like the first one. -/
theorem alike_merge (first second : Json) : Alike (some (merge first second)) (some first) := by
  cases first with
  | obj members =>
      cases second with
      | obj members' => exact .inr ⟨_, _, by rw [merge], rfl⟩
      | _ => exact .inl (by simp [merge])
  | _ => exact .inl (by simp [merge])

/-- A name is found in merged members with the first value, merged with the second one. -/
theorem find?_mergeMembers {first : Members} (hnodup : (names first).Nodup) (second : Members)
    (name : String) :
    find? (mergeMembers first second) name =
      match find? first name, find? second name with
      | some value, some other => some (merge value other)
      | some value, none => some value
      | none, other => other := by
  induction first generalizing second with
  | nil => simp [mergeMembers, find?]
  | cons member first ih =>
      obtain ⟨other, value⟩ := member
      rw [names_cons, List.nodup_cons] at hnodup
      rw [mergeMembers, ih hnodup.2]
      by_cases hother : other = name
      · subst hother
        rw [find?_of_not_mem hnodup.1, find?_insert, if_pos rfl, find?, if_pos rfl]
        cases find? second other <;> rfl
      · rw [find?_insert, if_neg hother, find?, if_neg hother]

end Settings

end ServerBrowser
