import Mathlib.Data.List.TakeWhile
import ServerBrowser.CommandLine.Usage
import ServerBrowser.Proofs.Decimal
import ServerBrowser.Settings

/-!
# ServerBrowser.Proofs.CommandLine.Help

Where the help text can be formatted.  The explanations are templates, and one of them shows the
address of the configuration: percent signs in its host are directives.  Without any the text is
shown as it is (`helpText_of_not_mem`).
-/

namespace ServerBrowser

/-- A template without percent signs is shown as it is, if its values are named. -/
theorem Template.format_of_not_mem {template : String} (members : Json.Members)
    (h : '%' ∉ template.toList) : format template (.ofMembers members) = .ok template := by
  have hplain : ∀ c ∈ template.toList, (c != '%') = true := by
    intro c hc
    rw [bne_iff_ne]
    rintro rfl
    exact h hc
  rw [format, formatFrom, List.dropWhile_eq_nil_iff.2 hplain, List.takeWhile_eq_self_iff.2 hplain]
  simp [Values.ofMembers]

/-- A port is written without percent signs. -/
theorem Settings.not_mem_address {settings : Settings} (h : '%' ∉ settings.host.toList) :
    '%' ∉ settings.address.toList := by
  have haddress : settings.address = settings.host ++ ":" ++ toString settings.port := rfl
  have hport : '%' ∉ Nat.toDigits 10 settings.port := by
    intro hmem
    exact absurd (isDigit_of_mem_toDigits hmem) (by decide)
  rw [haddress, String.toList_append, String.toList_append]
  simp [h, hport]

namespace CommandLine

variable {defaultMaster : String} {s : Switch}

theorem exists_explain (h : '%' ∉ defaultMaster.toList) (s : Switch) :
    ∃ text, explain defaultMaster s = .ok text := by
  have hmaster : '%' ∉ (explanation defaultMaster .master).toList := by
    unfold explanation
    simp [h]
  cases s with
  | master =>
      rw [explain]
      exact ⟨_, Template.format_of_not_mem _ hmaster⟩
  | _ => exact ⟨_, rfl⟩

theorem exists_switchHelp (h : '%' ∉ defaultMaster.toList) (s : Switch) :
    ∃ lines, switchHelp defaultMaster s = .ok lines := by
  obtain ⟨text, htext⟩ := exists_explain h s
  simp only [switchHelp, htext, bind, Except.bind]
  exact ⟨_, rfl⟩

theorem exists_mapM_switchHelp (h : '%' ∉ defaultMaster.toList) (switches : List Switch) :
    ∃ texts, switches.mapM (switchHelp defaultMaster) = .ok texts := by
  induction switches with
  | nil => exact ⟨[], rfl⟩
  | cons s rest ih =>
      obtain ⟨lines, hlines⟩ := exists_switchHelp h s
      obtain ⟨texts, htexts⟩ := ih
      refine ⟨lines :: texts, ?_⟩
      rw [List.mapM_cons, hlines, htexts]
      rfl

/-- **The help text can be formatted where the default address has no percent sign.** -/
theorem helpText_of_not_mem (h : '%' ∉ defaultMaster.toList) :
    ∃ text, helpText defaultMaster = .ok text := by
  obtain ⟨texts, htexts⟩ := exists_mapM_switchHelp h Switch.all
  simp only [helpText, htexts, bind, Except.bind]
  exact ⟨_, rfl⟩

end CommandLine

end ServerBrowser
