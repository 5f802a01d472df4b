import ServerBrowser.Proofs.Text.Fields

/-!
# ServerBrowser.Proofs.Text.Lines

Texts that consist of whole lines.  A text has its lines in one way only: they are what stands
between its newlines (`isLines_iff_splitOn`).  Every text that is followed by a newline has lines
(`exists_isLines`).
-/

namespace ServerBrowser.Text

/-- Whether a text consists of lines: none has a newline in it, and each is followed by one. -/
structure IsLines (text : String) (lines : List String) : Prop where
  bare : ∀ line ∈ lines, '\n' ∉ line.toList
  joined : text = String.join (lines.map (· ++ "\n"))

variable {text first second line : String} {lines others : List String}

theorem isLines_empty : IsLines "" [] where
  bare := by simp
  joined := rfl

theorem isLines_singleton (h : '\n' ∉ line.toList) : IsLines (line ++ "\n") [line] where
  bare := by simpa using h
  joined := (String.empty_append).symm

theorem IsLines.append (hfirst : IsLines first lines) (hsecond : IsLines second others) :
    IsLines (first ++ second) (lines ++ others) where
  bare other hother := (List.mem_append.1 hother).elim (hfirst.bare other) (hsecond.bare other)
  joined := by rw [List.map_append, String.join_append, ← hfirst.joined, ← hsecond.joined]

/-- **The lines of a text are what stands between its newlines,** and nothing stands behind the last
one. -/
theorem isLines_iff_splitOn :
    IsLines text lines ↔ text.toList.splitOn '\n' = lines.map String.toList ++ [[]] := by
  have hjoin (first : List Char) (rest : List (List Char)) :
      first ++ (rest ++ [[]]).flatMap ('\n' :: ·) = (first :: rest).flatMap (· ++ ['\n']) := by
    induction rest generalizing first with
    | nil => simp
    | cons next rest ih => simp [← ih]
  have htext : text = String.join (lines.map (· ++ "\n")) ↔
      text.toList = (lines.map String.toList).flatMap (· ++ ['\n']) := by
    rw [← String.toList_inj, String.toList_join, List.flatMap_map, List.flatMap_map]
    simp
  cases lines with
  | nil =>
      rw [List.map_nil, List.nil_append, splitOn_eq_cons_iff]
      exact ⟨fun h => ⟨by simp [h.joined], by simp⟩, fun h => ⟨by simp, htext.2 h.1⟩⟩
  | cons first rest =>
      rw [List.map_cons, List.cons_append, splitOn_eq_cons_iff, hjoin]
      refine ⟨fun h => ⟨htext.1 h.joined, ?_⟩, fun h => ⟨fun line hline => ?_, htext.2 h.1⟩⟩
      · simpa [or_imp, forall_and] using h.bare
      · refine h.2 line.toList ?_
        rw [← List.cons_append, ← List.map_cons]
        exact List.mem_append_left _ (List.mem_map_of_mem hline)

/-- A text that is followed by a newline has lines. -/
theorem exists_isLines (text : String) : ∃ lines, IsLines (text ++ "\n") lines := by
  obtain ⟨first, rest, hsplit⟩ :=
    List.exists_cons_of_ne_nil (List.splitOn_ne_nil '\n' text.toList)
  obtain ⟨htext, hbare⟩ := splitOn_eq_cons_iff.1 hsplit
  refine ⟨(first :: rest).map String.ofList, isLines_iff_splitOn.2 ?_⟩
  have hlines : ((first :: rest).map String.ofList).map String.toList = first :: rest := by
    simp [Function.comp_def]
  rw [hlines, List.cons_append, splitOn_eq_cons_iff]
  refine ⟨?_, ?_⟩
  · rw [String.toList_append, htext]
    simp
  · simpa [or_imp, forall_and] using hbare

end ServerBrowser.Text
