import ServerBrowser.Filter.Batch

/-!
# ServerBrowser.Proofs.Filter.Batch

How many bytes batches take.  A batch stays below the budget, or is a single token
(`fits_of_mem_cut`, and `fits_of_mem_batches` for the empty batch as well, which stays below every
budget that there is).  Tokens that have no bytes end the cutting where they are counted
(`batchesUpTo_refusal`).
-/

namespace ServerBrowser.Filter

variable {budget : Int} {tokens batch : List String}

/-- How many bytes the tokens of a batch take. -/
def load : List String → Nat
  | [] => 0
  | token :: rest => size token + load rest

/-- Whether a batch stays below a budget, or could not be cut any further. -/
def Fits (budget : Int) (batch : List String) : Prop :=
  (load batch : Int) < budget ∨ ∃ token, batch = [token]

/-- What is taken stays below the budget, together with what was taken before. -/
theorem load_takeFitting (budget : Int) (used : Nat) (tokens : List String) :
    (takeFitting budget used tokens).1 = [] ∨
      ((used + load (takeFitting budget used tokens).1 : Nat) : Int) < budget := by
  induction tokens generalizing used with
  | nil => exact .inl rfl
  | cons token rest ih =>
      by_cases hfull : budget ≤ ((used + size token : Nat) : Int)
      · rw [takeFitting, if_pos hfull]
        exact .inl rfl
      · rw [takeFitting, if_neg hfull]
        refine .inr ?_
        obtain hnone | hmore := ih (used + size token)
        · simp only [hnone, load]
          omega
        · simp only [load]
          omega

/-- The next batch stays below the budget, or is the token that did not fit. -/
theorem fits_nextBatch (budget : Int) (h : tokens ≠ []) :
    Fits budget (nextBatch budget tokens).1 := by
  have hload := load_takeFitting budget 0 tokens
  have hsome := nextBatch_ne_nil budget h
  revert hsome
  unfold nextBatch
  split
  · exact fun _ => .inr ⟨_, rfl⟩
  · intro hsome
    obtain hnone | hfits := hload
    · exact absurd hnone hsome
    · rw [Nat.zero_add] at hfits
      exact .inl hfits

/-- What holds of the next batch of any tokens holds of all batches. -/
theorem forall_mem_cut {P : List String → Prop}
    (h : ∀ {tokens}, tokens ≠ [] → P (nextBatch budget tokens).1) (tokens : List String) :
    ∀ batch ∈ cut budget tokens, P batch := by
  fun_induction cut budget tokens with
  | case1 => simp
  | case2 tokens htokens ih => exact List.forall_mem_cons.2 ⟨h htokens, ih⟩

theorem ne_nil_of_mem_cut (h : batch ∈ cut budget tokens) : batch ≠ [] :=
  forall_mem_cut (P := (· ≠ [])) (nextBatch_ne_nil budget) tokens batch h

theorem fits_of_mem_cut (h : batch ∈ cut budget tokens) : Fits budget batch :=
  forall_mem_cut (fits_nextBatch budget) tokens batch h

theorem batches_of_ne_nil (h : tokens ≠ []) : batches budget tokens = cut budget tokens :=
  if_neg h

/-- Every batch of a query stays below the budget, or is a single token. -/
theorem fits_of_mem_batches (hbudget : 0 < budget) (h : batch ∈ batches budget tokens) :
    Fits budget batch := by
  by_cases htokens : tokens = []
  · rw [batches, if_pos htokens, List.mem_singleton] at h
    rw [h]
    exact .inl hbudget
  · rw [batches_of_ne_nil htokens] at h
    exact fits_of_mem_cut h

/-- The first batch, and the batches of the tokens that are left. -/
theorem batches_eq_cons (budget : Int) (tokens : List String) :
    batches budget tokens =
      (nextBatch budget tokens).1 :: cut budget (nextBatch budget tokens).2 := by
  by_cases htokens : tokens = []
  · rw [batches, if_pos htokens, htokens, cut]
    rfl
  · rw [batches_of_ne_nil htokens, cut, dif_neg htokens]

/-- Every query has a batch. -/
theorem batches_ne_nil (budget : Int) (tokens : List String) : batches budget tokens ≠ [] := by
  rw [batches_eq_cons]
  exact List.cons_ne_nil _ _

/-! ## tokens without bytes -/

variable {fault? : String → Option Fault}

/-- What is counted for the next batch is the front of the tokens. -/
theorem counted_isPrefix (budget : Int) (tokens : List String) : counted budget tokens <+: tokens := by
  have hwhole := takeFitting_append budget 0 tokens
  rw [counted]
  refine ⟨(takeFitting budget 0 tokens).2.drop 1, ?_⟩
  rw [List.append_assoc, List.take_append_drop, hwhole]

/-- The next batch is counted. -/
theorem nextBatch_isPrefix (budget : Int) (tokens : List String) :
    (nextBatch budget tokens).1 <+: counted budget tokens := by
  rw [counted, nextBatch]
  split
  · next token rest hnone => simp [hnone]
  · exact List.prefix_append _ _

/-- What is found in a row that begins with nothing to be found is found in the rest. -/
theorem findSome?_nextBatch (h : (counted budget tokens).findSome? fault? = none) :
    (nextBatch budget tokens).2.findSome? fault? = tokens.findSome? fault? := by
  have hbatch : (nextBatch budget tokens).1.findSome? fault? = none := by
    rw [List.findSome?_eq_none_iff] at h ⊢
    exact fun token htoken => h token ((nextBatch_isPrefix budget tokens).subset htoken)
  calc (nextBatch budget tokens).2.findSome? fault?
    _ = ((nextBatch budget tokens).1 ++ (nextBatch budget tokens).2).findSome? fault? := by
      rw [List.findSome?_append, hbatch, Option.none_or]
    _ = tokens.findSome? fault? := by rw [nextBatch_append]

/-- **Batches are cut up to the first token that has no bytes,** and say why it has none. -/
theorem batchesUpTo_refusal (fault? : String → Option Fault) (budget : Int) (tokens : List String) :
    (batchesUpTo fault? budget tokens).2 = tokens.findSome? fault? := by
  have hcut (tokens : List String) :
      (cutUpTo fault? budget tokens).2 = tokens.findSome? fault? := by
    fun_induction cutUpTo fault? budget tokens with
    | case1 => rfl
    | case2 tokens htokens fault hfault =>
        obtain ⟨rest, hrest⟩ := counted_isPrefix budget tokens
        rw [← hrest, List.findSome?_append, hfault, Option.some_or]
    | case3 tokens htokens hnone batches refusal hcut ih =>
        rw [hcut] at ih
        exact ih.trans (findSome?_nextBatch hnone)
  rw [batchesUpTo]
  split
  · next htokens => rw [htokens]; rfl
  · exact hcut tokens

/-- Where each token has bytes, all batches are cut. -/
theorem batchesUpTo_of_forall (h : ∀ token ∈ tokens, fault? token = none) :
    batchesUpTo fault? budget tokens = (batches budget tokens, none) := by
  have hcut : cutUpTo fault? budget tokens = (cut budget tokens, none) := by
    fun_induction cut budget tokens with
    | case1 => rw [cutUpTo, dif_pos rfl]
    | case2 tokens hsome ih =>
        have hnone : (counted budget tokens).findSome? fault? = none :=
          List.findSome?_eq_none_iff.2 fun token htoken =>
            h token ((counted_isPrefix budget tokens).subset htoken)
        have hrest : ∀ token ∈ (nextBatch budget tokens).2, fault? token = none := by
          intro token htoken
          refine h token ?_
          rw [← nextBatch_append budget tokens]
          exact List.mem_append_right _ htoken
        rw [cutUpTo, dif_neg hsome, hnone]
        simp only [ih hrest]
  rw [batchesUpTo, batches]
  split
  · rfl
  · exact hcut

end ServerBrowser.Filter
