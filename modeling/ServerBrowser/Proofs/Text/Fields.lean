import ServerBrowser.Filter
import ServerBrowser.Proofs.Decimal

/-!
# ServerBrowser.Proofs.Text.Fields

Texts between separators.

* `splitOn_eq_cons_iff` — a text is divided at a separator in one way only;
* `terminated?_eq_some_iff` — bytes are divided at the first zero byte in one way only;
* `zero_mem_utf8_iff` — the UTF-8 of a text has a zero byte only where the text has a null
  character, so the zero byte behind a text can be found again;
* `decode?_eq_some_iff` — the text of UTF-8 bytes is the one that is written with them.
-/

namespace ServerBrowser

/-! ## fields between separators -/

/-- The fields of a text are the fields that the text consists of, when no field has the separator
in it. -/
theorem splitOn_eq_cons_iff {separator : Char} {text field : List Char}
    {fields : List (List Char)} :
    text.splitOn separator = field :: fields ↔
      text = field ++ fields.flatMap (separator :: ·) ∧ ∀ f ∈ field :: fields, separator ∉ f := by
  constructor
  · intro h
    induction text generalizing field fields with
    | nil =>
        simp only [List.splitOn_nil, List.cons.injEq] at h
        obtain ⟨rfl, rfl⟩ := h
        simp
    | cons c text ih =>
        obtain ⟨first, others, hfirst⟩ :=
          List.exists_cons_of_ne_nil (List.splitOn_ne_nil separator text)
        obtain ⟨htext, hfields⟩ := ih hfirst
        rw [List.splitOn_cons_eq_if_modifyHead, hfirst] at h
        by_cases hc : c = separator
        · simp only [hc, beq_self_eq_true, if_true, List.cons.injEq] at h
          obtain ⟨rfl, rfl⟩ := h
          refine ⟨by simp [hc, ← htext], ?_⟩
          rw [List.forall_mem_cons]
          exact ⟨by simp, hfields⟩
        · simp only [beq_eq_false_iff_ne.2 hc, Bool.false_eq_true, if_false, List.modifyHead_cons,
            List.cons.injEq] at h
          obtain ⟨rfl, rfl⟩ := h
          rw [List.forall_mem_cons] at hfields ⊢
          refine ⟨by simp [← htext], ?_, hfields.2⟩
          simp [Ne.symm hc, hfields.1]
  · rintro ⟨rfl, hfields⟩
    induction fields generalizing field with
    | nil =>
        rw [List.flatMap_nil, List.append_nil]
        exact List.splitOn_eq_singleton (hfields field (by simp))
    | cons next fields ih =>
        rw [List.forall_mem_cons] at hfields
        rw [List.flatMap_cons, List.cons_append,
          List.splitOn_append_cons_self_of_not_mem hfields.1, ih hfields.2]

namespace Text

/-! ## what a zero byte ends -/

/-- The bytes before the first zero byte, and those behind it. -/
def terminated? : List UInt8 → Option (List UInt8 × List UInt8)
  | [] => none
  | b :: rest =>
    if b = 0 then some ([], rest)
    else (terminated? rest).map fun (front, rest) => (b :: front, rest)

/-- Bytes are divided at the zero byte that comes first. -/
theorem terminated?_eq_some_iff {bytes front rest : List UInt8} :
    terminated? bytes = some (front, rest) ↔ bytes = front ++ 0 :: rest ∧ 0 ∉ front := by
  induction bytes generalizing front with
  | nil => simp [terminated?]
  | cons b bytes ih =>
      by_cases hb : b = 0
      · cases front with
        | nil => simp [terminated?, hb, eq_comm]
        | cons c front => simp [terminated?, hb]; grind
      · cases front with
        | nil => simp [terminated?, hb]
        | cons c front => simp [terminated?, hb, ih]; grind

/-! ## UTF-8 -/

/-- The UTF-8 of characters. -/
def utf8 (cs : List Char) : List UInt8 :=
  cs.flatMap String.utf8EncodeChar

@[simp] theorem utf8_append (cs ds : List Char) : utf8 (cs ++ ds) = utf8 cs ++ utf8 ds :=
  List.flatMap_append

/-- The bytes of a token are the UTF-8 of its characters. -/
theorem encode_eq_utf8 (text : String) : Filter.encode text = utf8 text.toList := by
  have h : text.toUTF8 = (utf8 text.toList).toByteArray := by
    calc
      text.toUTF8 = (String.ofList text.toList).toByteArray := by
        rw [String.ofList_toList, String.toUTF8_eq_toByteArray]
      _ = (utf8 text.toList).toByteArray := String.toByteArray_ofList
  rw [Filter.encode, h, List.data_toByteArray]

/-- Only the null character is written with a zero byte. -/
theorem zero_mem_utf8EncodeChar_iff (c : Char) :
    0 ∈ String.utf8EncodeChar c ↔ c = '\x00' := by
  have hzero : ∀ n : Nat, (0 : UInt8) = UInt8.ofNat n ↔ n % 256 = 0 := fun n => by
    rw [← UInt8.toNat_inj]
    simp [eq_comm]
  have hnull : c = '\x00' ↔ c.val.toNat = 0 := by
    rw [← Char.val_inj, ← UInt32.toNat_inj]
    rfl
  rw [hnull]
  unfold String.utf8EncodeChar
  simp only
  split
  · simp only [List.mem_singleton, hzero]
    omega
  · split
    · simp only [List.mem_cons, hzero, List.not_mem_nil, or_false]
      omega
    · split
      · simp only [List.mem_cons, hzero, List.not_mem_nil, or_false]
        omega
      · simp only [List.mem_cons, hzero, List.not_mem_nil, or_false]
        omega

theorem zero_mem_utf8_iff (cs : List Char) : 0 ∈ utf8 cs ↔ '\x00' ∈ cs := by
  simp only [utf8, List.mem_flatMap, zero_mem_utf8EncodeChar_iff]
  simp

/-- The characters of UTF-8 bytes. -/
def decode? (bytes : List UInt8) : Option (List Char) :=
  (String.fromUTF8? bytes.toByteArray).map String.toList

theorem fromUTF8?_toByteArray (text : String) :
    String.fromUTF8? text.toByteArray = some text := by
  unfold String.fromUTF8?
  rw [dif_pos text.isValidUTF8]
  rfl

theorem toByteArray_of_fromUTF8? {bytes : ByteArray} {text : String}
    (h : String.fromUTF8? bytes = some text) : text.toByteArray = bytes := by
  unfold String.fromUTF8? at h
  split at h
  · cases h
    rfl
  · cases h

/-- Bytes are the UTF-8 of one row of characters at most. -/
theorem decode?_eq_some_iff {bytes : List UInt8} {cs : List Char} :
    decode? bytes = some cs ↔ bytes = utf8 cs := by
  have hutf8 : (utf8 cs).toByteArray = (String.ofList cs).toByteArray :=
    String.toByteArray_ofList.symm
  constructor
  · intro h
    obtain ⟨text, htext, rfl⟩ := Option.map_eq_some_iff.1 h
    have hbytes : bytes.toByteArray = (utf8 text.toList).toByteArray := by
      rw [← toByteArray_of_fromUTF8? htext, hutf8, String.ofList_toList]
    exact List.toByteArray_inj.1 hbytes
  · rintro rfl
    rw [decode?, hutf8, fromUTF8?_toByteArray, Option.map_some, String.toList_ofList]

end Text

end ServerBrowser
