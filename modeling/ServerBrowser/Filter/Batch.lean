import ServerBrowser.Fault
import ServerBrowser.Filter
import ServerBrowser.Log
import ServerBrowser.Text.Quoted

/-!
# Batches of filters

A packet has room for tokens of fewer bytes than its budget.  The tokens are cut, in order, into
batches that are as long as the budget allows; a token that alone reaches the budget makes a batch
of its own, and a remark about it goes to the log.

A token may have no bytes to be counted.  Batches are cut one at a time, so those before it are
still made (`batchesUpTo`).

* `flatten_batches`: the batches put together are the tokens.
-/

namespace ServerBrowser.Filter

/-- The longest run of tokens from the front that stays below a budget, of which `used` bytes are
taken already, and the tokens that are left. -/
def takeFitting (budget : Int) (used : Nat) : List String → List String × List String
  | [] => ([], [])
  | token :: rest =>
    if budget ≤ ((used + size token : Nat) : Int) then ([], token :: rest)
    else
      let (taken, left) := takeFitting budget (used + size token) rest
      (token :: taken, left)

/-- The next batch and the tokens that are left. -/
def nextBatch (budget : Int) (tokens : List String) : List String × List String :=
  match takeFitting budget 0 tokens with
  | ([], token :: rest) => ([token], rest)
  | split => split

/-- Nothing is lost by taking what fits. -/
theorem takeFitting_append (budget : Int) (used : Nat) (tokens : List String) :
    (takeFitting budget used tokens).1 ++ (takeFitting budget used tokens).2 = tokens := by
  induction tokens generalizing used with
  | nil => rfl
  | cons token rest ih =>
    simp only [takeFitting]
    split
    · rfl
    · simp [ih]

/-- Nothing is lost by taking a batch. -/
theorem nextBatch_append (budget : Int) (tokens : List String) :
    (nextBatch budget tokens).1 ++ (nextBatch budget tokens).2 = tokens := by
  have hwhole := takeFitting_append budget 0 tokens
  unfold nextBatch
  split
  · next hnone => simpa [hnone] using hwhole
  · exact hwhole

/-- A batch takes at least one token. -/
theorem nextBatch_ne_nil (budget : Int) {tokens : List String} (h : tokens ≠ []) :
    (nextBatch budget tokens).1 ≠ [] := by
  have hwhole := takeFitting_append budget 0 tokens
  unfold nextBatch
  split
  · simp
  · next hsome =>
    intro hempty
    cases hleft : (takeFitting budget 0 tokens).2 with
    | nil =>
      rw [hempty, hleft] at hwhole
      exact h hwhole.symm
    | cons token rest => exact hsome token rest (Prod.ext hempty hleft)

theorem length_nextBatch_lt (budget : Int) {tokens : List String} (h : tokens ≠ []) :
    (nextBatch budget tokens).2.length < tokens.length := by
  have hwhole := congrArg List.length (nextBatch_append budget tokens)
  have htaken := List.length_pos_iff.2 (nextBatch_ne_nil budget h)
  rw [List.length_append] at hwhole
  omega

/-- Cut tokens into batches; no tokens give no batch. -/
def cut (budget : Int) (tokens : List String) : List (List String) :=
  if _h : tokens = [] then []
  else (nextBatch budget tokens).1 :: cut budget (nextBatch budget tokens).2
termination_by tokens.length
decreasing_by exact length_nextBatch_lt budget ‹_›

/-- The batches of a query.  A query without filters has one batch, which is empty. -/
def batches (budget : Int) (tokens : List String) : List (List String) :=
  if tokens = [] then [[]] else cut budget tokens

/-! ## tokens without bytes -/

/-- The tokens whose bytes are counted for the next batch: those that fit, and the first that does
not. -/
def counted (budget : Int) (tokens : List String) : List String :=
  let (taken, left) := takeFitting budget 0 tokens
  taken ++ left.take 1

/-- Cut tokens into batches, up to one that is counted and has no bytes, and say why it has none. -/
def cutUpTo (fault? : String → Option Fault) (budget : Int) (tokens : List String) :
    List (List String) × Option Fault :=
  if _h : tokens = [] then ([], none)
  else match (counted budget tokens).findSome? fault? with
    | some fault => ([], some fault)
    | none =>
      let (batches, refusal) := cutUpTo fault? budget (nextBatch budget tokens).2
      ((nextBatch budget tokens).1 :: batches, refusal)
termination_by tokens.length
decreasing_by exact length_nextBatch_lt budget ‹_›

/-- The batches of a query up to a token that has no bytes. -/
def batchesUpTo (fault? : String → Option Fault) (budget : Int) (tokens : List String) :
    List (List String) × Option Fault :=
  if tokens = [] then ([[]], none) else cutUpTo fault? budget tokens

/-! ## what is cut -/

theorem flatten_cut (budget : Int) (tokens : List String) :
    (cut budget tokens).flatten = tokens := by
  fun_induction cut budget tokens with
  | case1 => rfl
  | case2 tokens h ih => rw [List.flatten_cons, ih, nextBatch_append]

/-- The batches put together are the tokens. -/
theorem flatten_batches (budget : Int) (tokens : List String) :
    (batches budget tokens).flatten = tokens := by
  unfold batches
  split
  · next h => simp [h]
  · exact flatten_cut budget tokens

/-- What is said about a batch: that its only token reaches the budget alone. -/
def batchRemarks (budget : Int) : List String → List Log.Record
  | [token] =>
    if budget ≤ (size token : Int) then
      [⟨Log.packetLogger, Log.warning,
        s!"Filter {Text.quoted token} is {size token} bytes (limit {budget}), " ++
          "sending it in its own batch"⟩]
    else []
  | _ => []

end ServerBrowser.Filter
