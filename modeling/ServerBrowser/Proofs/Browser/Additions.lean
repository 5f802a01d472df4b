import Mathlib.Data.List.Forall2
import ServerBrowser.Proofs.Browser.Routine

/-!
# ServerBrowser.Proofs.Browser.Additions

What a call that adds filters does to a browser.  `Addition.Adds` lists the ways in which a call may
go:

* it is refused while a query runs, and changes nothing;
* it adds all of its tokens, in order;
* it breaks off at the first app id that is no number, and the tokens of the ids before it stay.

So a call adds all of its tokens or none, unless an app id that is no number comes after one that is
(`Addition.perform_isWhole_iff`).
-/

namespace ServerBrowser

/-! ## app ids -/

namespace AppId

/-- Whether an app id is a number. -/
def IsNumber (id : AppId) : Prop :=
  ∃ n, id.number = .ok n

/-- The token of an app id. -/
def Spells (id : AppId) (token : String) : Prop :=
  ∃ n, id.number = .ok n ∧ token = Filter.token "appid" (toString n)

theorem Spells.isNumber {id : AppId} {token : String} (h : id.Spells token) : id.IsNumber :=
  h.imp fun _ hn => hn.1

theorem not_isNumber_of_error {id : AppId} {fault : Fault} (h : id.number = .error fault) :
    ¬ id.IsNumber := by
  rintro ⟨n, hn⟩
  cases h.symm.trans hn

/-- App ids that have tokens are numbers. -/
theorem isNumber_of_forall₂ {ids : List AppId} {tokens : List String}
    (h : List.Forall₂ Spells ids tokens) : ∀ id ∈ ids, id.IsNumber := by
  induction h with
  | nil => simp
  | cons hspells _ ih => exact List.forall_mem_cons.2 ⟨hspells.isNumber, ih⟩

end AppId

namespace Browser

/-- App ids give their tokens, or those of the ids before the first that is no number. -/
theorem appIdTokens_cases (ids : List AppId) :
    (∃ tokens, List.Forall₂ AppId.Spells ids tokens ∧ appIdTokens ids = (tokens, .ok ())) ∨
      ∃ front id rest tokens fault, ids = front ++ id :: rest ∧
        List.Forall₂ AppId.Spells front tokens ∧ id.number = .error fault ∧
        appIdTokens ids = (tokens, .error fault) := by
  induction ids with
  | nil => exact .inl ⟨[], .nil, rfl⟩
  | cons id ids ih =>
      cases hnumber : id.number with
      | error fault =>
          exact .inr ⟨[], id, ids, [], fault, rfl, .nil, hnumber, by rw [appIdTokens, hnumber]⟩
      | ok n =>
          have hspells : id.Spells (Filter.token "appid" (toString n)) := ⟨n, hnumber, rfl⟩
          obtain ⟨tokens, htokens, hids⟩ | ⟨front, bad, rest, tokens, fault, rfl, hfront, hbad,
            hids⟩ := ih
          · exact .inl ⟨_, .cons hspells htokens, by rw [appIdTokens, hnumber, hids]⟩
          · exact .inr ⟨id :: front, bad, rest, _, fault, rfl, .cons hspells hfront, hbad, by
              rw [appIdTokens, hnumber, hids]⟩

end Browser

/-! ## calls -/

namespace Addition

variable {browser after : Browser} {addition : Addition} {answer : Except Fault Unit}

/-- The tokens of a call, in order. -/
def Spells : Addition → List String → Prop
  | .filters given, tokens => tokens = given
  | .filter key value, tokens => tokens = [Filter.ofValue key value]
  | .appIds ids, tokens => List.Forall₂ AppId.Spells ids tokens

/-- Whether an app id of a call that is no number comes after one that is. -/
def BreaksOff : Addition → Prop
  | .filters _ | .filter .. => False
  | .appIds ids => ∃ first rest, ids = first :: rest ∧ first.IsNumber ∧ ∃ id ∈ rest, ¬ id.IsNumber

/-- Whether a call that returns has added exactly its tokens, and one that fails nothing. -/
def IsWhole (browser : Browser) (addition : Addition) (after : Browser) :
    Except Fault Unit → Prop
  | .ok () => ∃ tokens, addition.Spells tokens ∧ after.filters = browser.filters ++ tokens
  | .error _ => after.filters = browser.filters

/-- The ways in which a call may go. -/
inductive Adds (browser : Browser) : Addition → Except Fault Unit → Browser → Prop
  | locked {addition : Addition} (running : browser.querying = true) :
    Adds browser addition (.error .filtersLocked) browser
  | added {addition : Addition} {tokens : List String} (idle : browser.querying = false)
    (spells : addition.Spells tokens) :
    Adds browser addition (.ok ()) { browser with filters := browser.filters ++ tokens }
  | brokenOff {front rest : List AppId} {id : AppId} {tokens : List String} {fault : Fault}
    (idle : browser.querying = false) (spells : List.Forall₂ AppId.Spells front tokens)
    (refused : id.number = .error fault) :
    Adds browser (.appIds (front ++ id :: rest)) (.error fault)
      { browser with filters := browser.filters ++ tokens }

/-- Every call goes in one of these ways. -/
theorem adds_perform (addition : Addition) (browser : Browser) :
    Adds browser addition (addition.perform browser).1 (addition.perform browser).2 := by
  cases hquerying : browser.querying with
  | true =>
      have hperform : addition.perform browser = (.error .filtersLocked, browser) := by
        cases addition <;>
          simp [perform, settle, Browser.addFilter, Browser.addFilters, Browser.addAppIds,
            hquerying]
      rw [hperform]
      exact .locked hquerying
  | false =>
      cases addition with
      | filters tokens =>
          have hperform : perform browser (.filters tokens) =
              (.ok (), { browser with filters := browser.filters ++ tokens }) := by
            simp [perform, settle, Browser.addFilters, hquerying]
          rw [hperform]
          exact .added hquerying rfl
      | filter key value =>
          have hperform : perform browser (.filter key value) =
              (.ok (), { browser with
                filters := browser.filters ++ [Filter.ofValue key value] }) := by
            simp [perform, settle, Browser.addFilter, Browser.addFilters, hquerying]
          rw [hperform]
          exact .added hquerying rfl
      | appIds ids =>
          have hperform : perform browser (.appIds ids) = ((Browser.appIdTokens ids).2,
              { browser with filters := browser.filters ++ (Browser.appIdTokens ids).1 }) := by
            simp [perform, Browser.addAppIds, hquerying]
          rw [hperform]
          obtain ⟨tokens, hspells, hids⟩ | ⟨front, id, rest, tokens, fault, rfl, hfront, hrefused,
            hids⟩ := Browser.appIdTokens_cases ids
          · rw [hids]
            exact .added hquerying hspells
          · rw [hids]
            exact .brokenOff hquerying hfront hrefused

/-- A call that has tokens does not break off. -/
theorem Spells.not_breaksOff {tokens : List String} (h : addition.Spells tokens) :
    ¬ addition.BreaksOff := by
  cases addition with
  | filters | filter => exact id
  | appIds ids =>
      rintro ⟨first, rest, rfl, -, id, hid, hnumber⟩
      exact hnumber (AppId.isNumber_of_forall₂ h id (List.mem_cons_of_mem first hid))

/-- Where something has stayed of a call that failed, the call has broken off. -/
theorem Adds.isWhole_iff (h : Adds browser addition answer after) :
    addition.IsWhole browser after answer ↔ browser.querying = true ∨ ¬ addition.BreaksOff := by
  cases h with
  | locked running => exact iff_of_true rfl (.inl running)
  | added idle spells => exact iff_of_true ⟨_, spells, rfl⟩ (.inr spells.not_breaksOff)
  | @brokenOff front rest id tokens fault idle spells refused =>
      have hid : ¬ id.IsNumber := AppId.not_isNumber_of_error refused
      cases spells with
      | nil =>
          refine iff_of_true (List.append_nil browser.filters) (.inr ?_)
          rintro ⟨first, more, hids, hfirst, -⟩
          obtain ⟨rfl, -⟩ := List.cons.inj hids
          exact hid hfirst
      | @cons first token front tokens hfirst _ =>
          refine iff_of_false (by simp [IsWhole]) ?_
          rintro (running | hwhole)
          · cases idle.symm.trans running
          · exact hwhole ⟨first, front ++ id :: rest, rfl, hfirst.isNumber, id, by simp, hid⟩

/-- **A call adds all of its tokens or none, unless an app id that is no number comes after one that
is.**  A call is refused while a query runs, adds its tokens after the filters that there are, or
breaks off at the first app id that is no number; only there, and only if it is not the first of
them, something stays of a call that failed. -/
theorem perform_isWhole_iff (browser : Browser) (addition : Addition) :
    Adds browser addition (addition.perform browser).1 (addition.perform browser).2 ∧
      (addition.IsWhole browser (addition.perform browser).2 (addition.perform browser).1 ↔
        browser.querying = true ∨ ¬ addition.BreaksOff) :=
  ⟨adds_perform addition browser, (adds_perform addition browser).isWhole_iff⟩

/-- The token of the first app id stays where the second one is no number. -/
theorem perform_appIds_secondRefused :
    perform {} (.appIds [.whole 440, .text "x"]) =
        (.error (.numeral (.malformed "x")), { filters := ["\\appid\\440"] }) ∧
      ¬ IsWhole {} (.appIds [.whole 440, .text "x"]) { filters := ["\\appid\\440"] }
        (.error (.numeral (.malformed "x"))) :=
  ⟨rfl, by simp [IsWhole]⟩

end Addition

end ServerBrowser
