import Mathlib.Data.List.Chain
import ServerBrowser.Proofs.Filter.Batch

/-!
# ServerBrowser.Proofs.Filter.Greedy

Which cut of the tokens the batches are.  They are made greedily: a batch goes on for as long as the
next token fits, so the batch and the first token of the one after it would together reach the
budget.  There is only one way to cut tokens into groups like that (`batches_unique`).

A group of tokens that is full in this sense is taken off the front of them as it is
(`nextBatch_of_full`), and what is taken off is full (`full_nextBatch`).
-/

namespace ServerBrowser.Filter

variable {budget : Int} {used : Nat} {token : String} {tokens group rest : List String}
  {groups : List (List String)}

/-- Whether a group stays below a budget, or is a single token that reaches it alone. -/
def Within (budget : Int) (group : List String) : Prop :=
  (load group : Int) < budget ∨ ∃ token, group = [token] ∧ budget ≤ size token

/-- Whether there is no room in a group for the first of the tokens that come after it. -/
def Full (budget : Int) (group later : List String) : Prop :=
  ∀ token ∈ later.head?, budget ≤ ((load group + size token : Nat) : Int)

/-- What is said of the groups that tokens are cut into greedily. -/
structure IsGreedy (budget : Int) (tokens : List String) (groups : List (List String)) : Prop where
  /-- No token is lost or made up, and all of them stay in their order. -/
  flatten : groups.flatten = tokens
  of_nil : tokens = [] → groups = [[]]
  ne_nil : tokens ≠ [] → ∀ group ∈ groups, group ≠ []
  /-- No tokens make one empty group, which is below the positive budgets and no others. -/
  within : tokens ≠ [] ∨ 0 < budget → ∀ group ∈ groups, Within budget group
  full : groups.IsChain (Full budget)

/-! ## one batch -/

/-- Tokens that fit are taken if the one after them does not fit. -/
theorem takeFitting_of_full (hgroup : group = [] ∨ ((used + load group : Nat) : Int) < budget)
    (hfull : ∀ token ∈ rest.head?, budget ≤ ((used + load group + size token : Nat) : Int)) :
    takeFitting budget used (group ++ rest) = (group, rest) := by
  induction group generalizing used with
  | nil =>
      cases rest with
      | nil => rfl
      | cons token rest =>
          rw [List.nil_append, takeFitting, if_pos (by simpa [load] using hfull)]
  | cons token group ih =>
      have hbelow : ((used + (size token + load group) : Nat) : Int) < budget := by
        simpa [load] using hgroup
      have hrest : takeFitting budget (used + size token) (group ++ rest) = (group, rest) :=
        ih (.inr (by omega)) (by simpa only [load, Nat.add_assoc] using hfull)
      rw [List.cons_append, takeFitting, if_neg (by omega), hrest]

/-- A group that is full is the next batch. -/
theorem nextBatch_of_full (hgroup : group ≠ []) (hwithin : Within budget group)
    (hfull : Full budget group rest) : nextBatch budget (group ++ rest) = (group, rest) := by
  obtain hbelow | ⟨token, rfl, hreaches⟩ := hwithin
  · have htaken : takeFitting budget 0 (group ++ rest) = (group, rest) :=
      takeFitting_of_full (.inr (by simpa using hbelow)) (by simpa [Full] using hfull)
    rw [nextBatch, htaken]
    split
    · next h => exact absurd (Prod.mk.inj h).1 hgroup
    · rfl
  · have htaken : takeFitting budget 0 ([token] ++ rest) = ([], token :: rest) := by
      rw [List.singleton_append, takeFitting, if_pos (by simpa using hreaches)]
    rw [nextBatch, htaken]

/-- The token after those that are taken does not fit. -/
theorem full_takeFitting (budget : Int) (used : Nat) (tokens : List String) :
    ∀ token ∈ (takeFitting budget used tokens).2.head?,
      budget ≤ ((used + load (takeFitting budget used tokens).1 + size token : Nat) : Int) := by
  induction tokens generalizing used with
  | nil => simp [takeFitting]
  | cons token rest ih =>
      by_cases hfull : budget ≤ ((used + size token : Nat) : Int)
      · rw [takeFitting, if_pos hfull]
        simpa [load] using hfull
      · rw [takeFitting, if_neg hfull]
        simpa only [load, Nat.add_assoc] using ih (used + size token)

/-- The next batch is full. -/
theorem full_nextBatch (budget : Int) (tokens : List String) :
    Full budget (nextBatch budget tokens).1 (nextBatch budget tokens).2 := by
  have htaken := full_takeFitting budget 0 tokens
  unfold nextBatch
  split
  · next token rest h =>
    rw [h] at htaken
    intro later hlater
    have hreaches : budget ≤ ((size token : Nat) : Int) := by simpa [load] using htaken
    simp only [load]
    omega
  · simpa [Full] using htaken

theorem within_nextBatch (budget : Int) (h : tokens ≠ []) :
    Within budget (nextBatch budget tokens).1 := by
  obtain hbelow | ⟨token, hsingle⟩ := fits_nextBatch budget h
  · exact .inl hbelow
  · by_cases hbelow : (load (nextBatch budget tokens).1 : Int) < budget
    · exact .inl hbelow
    · rw [hsingle] at hbelow ⊢
      exact .inr ⟨token, rfl, by simpa [load] using hbelow⟩

/-- The next batch begins with the first of the tokens. -/
theorem head?_nextBatch (budget : Int) (h : tokens ≠ []) :
    (nextBatch budget tokens).1.head? = tokens.head? := by
  have hwhole := congrArg List.head? (nextBatch_append budget tokens)
  rwa [List.head?_append_of_ne_nil _ (nextBatch_ne_nil budget h)] at hwhole

/-! ## all batches -/

/-- Every batch is full but the last one, after which no token comes. -/
theorem full_cut (budget : Int) (tokens : List String) :
    (cut budget tokens).IsChain (Full budget) := by
  fun_induction cut budget tokens with
  | case1 => exact .nil
  | case2 tokens htokens ih =>
      by_cases hleft : (nextBatch budget tokens).2 = []
      · rw [hleft, cut, dif_pos rfl]
        exact .singleton _
      · rw [cut, dif_neg hleft] at ih ⊢
        refine .cons_cons ?_ ih
        rw [Full, head?_nextBatch budget hleft]
        exact full_nextBatch budget tokens

/-- **Groups that are full are the batches of their tokens.** -/
theorem eq_cut (hne : ∀ group ∈ groups, group ≠ [])
    (hwithin : ∀ group ∈ groups, Within budget group) (hfull : groups.IsChain (Full budget)) :
    groups = cut budget groups.flatten := by
  induction groups with
  | nil => rw [List.flatten_nil, cut, dif_pos rfl]
  | cons group groups ih =>
      obtain ⟨hgroup, hne⟩ := List.forall_mem_cons.1 hne
      obtain ⟨hgroupWithin, hwithin⟩ := List.forall_mem_cons.1 hwithin
      -- What comes after the group begins as the next group does, since that one is not empty.
      have hrest : Full budget group groups.flatten := by
        cases groups with
        | nil => simp [Full]
        | cons later groups =>
            rw [Full, List.flatten_cons,
              List.head?_append_of_ne_nil _ (hne later (List.mem_cons_self ..))]
            exact (List.isChain_cons_cons.1 hfull).1
      have hnext : nextBatch budget (group ++ groups.flatten) = (group, groups.flatten) :=
        nextBatch_of_full hgroup hgroupWithin hrest
      rw [List.flatten_cons, cut, dif_neg (by simp [hgroup]), hnext, ← ih hne hwithin hfull.tail]

theorem isGreedy_batches (budget : Int) (tokens : List String) :
    IsGreedy budget tokens (batches budget tokens) where
  flatten := flatten_batches budget tokens
  of_nil h := by rw [batches, if_pos h]
  ne_nil h := by
    rw [batches_of_ne_nil h]
    exact fun group => ne_nil_of_mem_cut
  within h := by
    by_cases htokens : tokens = []
    · have hbudget : 0 < budget := h.resolve_left (not_not_intro htokens)
      rw [batches, if_pos htokens]
      exact List.forall_mem_singleton.2 (.inl hbudget)
    · rw [batches_of_ne_nil htokens]
      exact forall_mem_cut (within_nextBatch budget) tokens
  full := by
    by_cases htokens : tokens = []
    · rw [batches, if_pos htokens]
      exact .singleton _
    · rw [batches_of_ne_nil htokens]
      exact full_cut budget tokens

/-- Groups that are not empty are no more than their tokens. -/
theorem length_le_of_ne_nil (h : ∀ group ∈ groups, group ≠ []) :
    groups.length ≤ groups.flatten.length := by
  induction groups with
  | nil => exact Nat.le_refl 0
  | cons group groups ih =>
      obtain ⟨hgroup, hgroups⟩ := List.forall_mem_cons.1 h
      have hpos := List.length_pos_iff.2 hgroup
      have hrest := ih hgroups
      rw [List.flatten_cons, List.length_append, List.length_cons]
      omega

/-- **The batches are the one greedy cut of the tokens.**  There are no more of them than tokens,
one at least.  Put together they are the tokens; no tokens make one empty batch, and no other batch
is empty; each stays below the budget or is a single token that reaches it alone; and each would
reach it with the first token of the next one.  No other groups are like that. -/
theorem batches_unique (budget : Int) (tokens : List String) :
    (batches budget tokens).length ≤ max tokens.length 1 ∧
      ∀ groups, groups = batches budget tokens ↔ IsGreedy budget tokens groups := by
  constructor
  · by_cases htokens : tokens = []
    · rw [batches, if_pos htokens]
      exact Nat.le_max_right ..
    · have hlength := length_le_of_ne_nil ((isGreedy_batches budget tokens).ne_nil htokens)
      rw [flatten_batches] at hlength
      exact Nat.le_trans hlength (Nat.le_max_left ..)
  · intro groups
    constructor
    · rintro rfl
      exact isGreedy_batches budget tokens
    · intro h
      by_cases htokens : tokens = []
      · rw [h.of_nil htokens, batches, if_pos htokens]
      · have hcut := eq_cut (h.ne_nil htokens) (h.within (.inl htokens)) h.full
        rw [batches_of_ne_nil htokens, ← h.flatten]
        exact hcut

/-- Without tokens and without room, the one empty batch neither stays below the budget nor is it a
single token. -/
theorem batches_nil_not_within : ¬ ∀ batch ∈ batches 0 [], Within 0 batch := by
  have hempty : batches 0 [] = [[]] := by rw [batches, if_pos rfl]
  rw [hempty, List.forall_mem_singleton]
  rintro (hbelow | ⟨token, hsingle, -⟩)
  · exact absurd hbelow (by decide)
  · cases hsingle

/-- Two bytes of one character count as two, and a batch goes on with a token of none. -/
example : batches 4 ["ab", "é", "", "abcdef", ""] = [["ab"], ["é", ""], ["abcdef"], [""]] := by
  decide +kernel

end ServerBrowser.Filter
