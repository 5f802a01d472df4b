import ServerBrowser.Proofs.Filter.Greedy

/-!
# ServerBrowser.Proofs.Filter.Fewest

No cut of tokens into groups that fit has fewer groups than there are batches
(`length_batches_le`).  The batches stay ahead of the groups: at the end of as many batches as
groups, at least as many tokens are used up (`length_cut_le`).

What fits a budget fits every larger one, so a larger budget does not make more batches
(`length_batches_mono`).
-/

namespace ServerBrowser.Filter

variable {budget larger : Int} {used : Nat} {tokens group first second rest : List String}
  {groups : List (List String)}

/-- Whether a group of tokens may be a batch: it is not empty, and it stays below the budget or
could not be cut any further. -/
def Admissible (budget : Int) (group : List String) : Prop :=
  group ≠ [] ∧ Fits budget group

theorem load_append (first second : List String) :
    load (first ++ second) = load first + load second := by
  induction first with
  | nil => simp [load]
  | cons token first ih => simp [load, ih, Nat.add_assoc]

/-- What fits a budget fits a larger one. -/
theorem Fits.mono (h : Fits budget group) (hlarger : budget ≤ larger) : Fits larger group := by
  obtain hbelow | hsingle := h
  · exact .inl (Int.lt_of_lt_of_le hbelow hlarger)
  · exact .inr hsingle

/-- The end of a group fits if the group does. -/
theorem Fits.of_append (h : Fits budget (first ++ second)) (hsecond : second ≠ []) :
    Fits budget second := by
  obtain hbelow | ⟨token, hsingle⟩ := h
  · rw [load_append] at hbelow
    exact .inl (by omega)
  · obtain ⟨-, rfl⟩ | ⟨-, hnone⟩ := List.append_eq_singleton_iff.1 hsingle
    · exact .inr ⟨token, rfl⟩
    · exact absurd hnone hsecond

/-! ## staying ahead -/

/-- All tokens are taken that fit together. -/
theorem prefix_takeFitting (rest : List String) (h : ((used + load group : Nat) : Int) < budget) :
    group <+: (takeFitting budget used (group ++ rest)).1 := by
  induction group generalizing used with
  | nil => exact List.nil_prefix
  | cons token group ih =>
      simp only [load] at h
      rw [List.cons_append, takeFitting, if_neg (by omega)]
      exact (List.prefix_cons_inj token).2 (ih (by omega))

/-- The next batch has all tokens of a group that fits. -/
theorem prefix_nextBatch (rest : List String) (h : Fits budget group) :
    group <+: (nextBatch budget (group ++ rest)).1 := by
  obtain hbelow | ⟨token, rfl⟩ := h
  · have htaken : group <+: (takeFitting budget 0 (group ++ rest)).1 :=
      prefix_takeFitting rest (by simpa using hbelow)
    unfold nextBatch
    split
    · next hnone =>
      rw [hnone, List.prefix_nil] at htaken
      exact htaken ▸ List.nil_prefix
    · exact htaken
  · have hne : [token] ++ rest ≠ [] := by simp
    have hhead := head?_nextBatch budget hne
    obtain ⟨more, hmore⟩ := List.head?_eq_some_iff.1 hhead
    exact ⟨more, hmore.symm⟩

/-- **The batches of what comes after some tokens are no more than groups for all of them.** -/
theorem length_cut_le (hfits : ∀ group ∈ groups, Fits budget group) (front : List String)
    (hflatten : groups.flatten = front ++ tokens) : (cut budget tokens).length ≤ groups.length := by
  induction groups generalizing front tokens with
  | nil =>
      obtain ⟨-, rfl⟩ := List.append_eq_nil_iff.1 hflatten.symm
      rw [cut, dif_pos rfl, List.length_nil]
  | cons group groups ih =>
      obtain ⟨hgroup, hgroups⟩ := List.forall_mem_cons.1 hfits
      obtain ⟨passed, rfl, hrest⟩ | ⟨second, rfl, hrest⟩ :=
        List.append_eq_append_iff.1 (List.flatten_cons.symm.trans hflatten)
      · exact Nat.le_succ_of_le (ih hgroups passed hrest)
      · -- The group ends within the tokens, and the next batch does not end before it.
        by_cases htokens : tokens = []
        · rw [htokens, cut, dif_pos rfl]
          exact Nat.zero_le _
        · obtain ⟨more, hmore⟩ : second <+: (nextBatch budget tokens).1 := by
            by_cases hsecond : second = []
            · exact hsecond ▸ List.nil_prefix
            · exact hrest ▸ prefix_nextBatch groups.flatten (hgroup.of_append hsecond)
          have hleft : groups.flatten = more ++ (nextBatch budget tokens).2 := by
            have hwhole := (nextBatch_append budget tokens).trans hrest
            rw [← hmore, List.append_assoc] at hwhole
            exact (List.append_cancel_left hwhole).symm
          rw [cut, dif_neg htokens, List.length_cons, List.length_cons]
          exact Nat.succ_le_succ (ih hgroups more hleft)

/-- **No groups that may be batches are fewer than the batches.** -/
theorem length_batches_le (htokens : tokens ≠ []) (hflatten : groups.flatten = tokens)
    (hgroups : ∀ group ∈ groups, Admissible budget group) :
    (batches budget tokens).length ≤ groups.length := by
  rw [batches_of_ne_nil htokens]
  exact length_cut_le (fun group hgroup => (hgroups group hgroup).2) [] hflatten

/-- **A larger budget makes no more batches.** -/
theorem length_batches_mono (hlarger : budget ≤ larger) (tokens : List String) :
    (batches larger tokens).length ≤ (batches budget tokens).length := by
  by_cases htokens : tokens = []
  · rw [batches, if_pos htokens, batches, if_pos htokens]
  · refine length_batches_le htokens (flatten_batches budget tokens) fun group hgroup => ?_
    rw [batches_of_ne_nil htokens] at hgroup
    exact ⟨ne_nil_of_mem_cut hgroup, (fits_of_mem_cut hgroup).mono hlarger⟩

end ServerBrowser.Filter
