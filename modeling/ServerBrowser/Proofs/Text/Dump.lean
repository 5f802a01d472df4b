import ServerBrowser.Proofs.Text.Fields

/-!
# ServerBrowser.Proofs.Text.Dump

What the dump of a packet tells.  Its text is

```
dump  = [group {" " group}] [" ... (+" count " bytes)"]
group = two hexadecimal digits in lower case, the high one first
count = decimal digits, without a zero in front
```

and it is read field by field, a field being what stands between two spaces.

* `Dump.read?_eq_some_iff` — a text is read as a dump exactly if the dump is written so, hence no
  text tells two things;
* `hexDump_eq_write` — what the dump of bytes tells, at any limit;
* `hexDump_eq_iff` — which bytes have the same dump;
* `Dump.accounts_iff` — the bytes that are shown and those that are left out are all the bytes
  exactly at the limits that are not negative.

`hexDump_faithful` puts them together.
-/

namespace ServerBrowser.Text

/-! ## hexadecimal digits -/

/-- The value of a hexadecimal digit in lower case. -/
def lowerHexValue? (c : Char) : Option Nat :=
  if c.isUpper then none else hexValue? c

theorem toNat_lt_of_lowerHexValue? {c : Char} {n : Nat} (h : lowerHexValue? c = some n) :
    c.toNat < 128 := by
  have bound : ∀ d : Char, c ≤ d → c.toNat ≤ d.toNat := fun _ le => le
  unfold lowerHexValue? hexValue? at h
  split at h
  · cases h
  split at h
  · next digit => exact Nat.lt_of_le_of_lt (isDigit_bounds digit).2 (by decide)
  split at h
  · next lower => exact Nat.lt_of_le_of_lt (bound 'f' lower.2) (by decide)
  split at h
  · next upper => exact Nat.lt_of_le_of_lt (bound 'F' upper.2) (by decide)
  · cases h

/-- Each value below sixteen has one digit in lower case. -/
theorem lowerHexValue?_eq_some_iff {c : Char} {n : Nat} :
    lowerHexValue? c = some n ↔ n < 16 ∧ c = Nat.digitChar n := by
  have digits : ∀ n < 16, lowerHexValue? (Nat.digitChar n) = some n := by decide
  have ascii : ∀ k < 128, ∀ n ∈ lowerHexValue? (Char.ofNat k),
      n < 16 ∧ Char.ofNat k = Nat.digitChar n := by decide +kernel
  constructor
  · intro h
    have hc := ascii c.toNat (toNat_lt_of_lowerHexValue? h) n
    rw [Char.ofNat_toNat] at hc
    exact hc h
  · rintro ⟨hn, rfl⟩
    exact digits n hn

/-! ## decimal digits -/

/-- The number of a row of decimal digits that has no zero in front. -/
def readCount? : List Char → Option Nat
  | [] => none
  | c :: cs =>
    if (c :: cs).all Char.isDigit && (c != '0' || cs.isEmpty) then some (digitsValue (c :: cs))
    else none

theorem toDigits_of_isDigit {c : Char} (h : c.isDigit = true) :
    Nat.toDigits 10 (c.toNat - 0x30) = [c] := by
  have digits : ∀ k < 0x3A, 0x30 ≤ k → Nat.toDigits 10 (k - 0x30) = [Char.ofNat k] := by decide
  obtain ⟨hfirst, hlast⟩ := isDigit_bounds h
  rw [digits c.toNat (by omega) hfirst, Char.ofNat_toNat]

/-- Digits that go on after those of a number above zero. -/
theorem toDigits_foldl {n : Nat} (hn : 0 < n) {digits : List Char}
    (h : ∀ c ∈ digits, c.isDigit = true) :
    Nat.toDigits 10 (digits.foldl (fun n c => 10 * n + (c.toNat - 0x30)) n) =
      Nat.toDigits 10 n ++ digits := by
  induction digits generalizing n with
  | nil => simp
  | cons c digits ih =>
      rw [List.forall_mem_cons] at h
      have hc := isDigit_bounds h.1
      rw [List.foldl_cons, ih (by omega) h.2,
        ← Nat.toDigits_append_toDigits (by decide) hn (by omega), toDigits_of_isDigit h.1,
        List.append_assoc, List.singleton_append]

/-- Digits without a zero in front are the digits of the number that they stand for. -/
theorem toDigits_digitsValue {c : Char} {cs : List Char} (h : ∀ d ∈ c :: cs, d.isDigit = true)
    (hfront : c ≠ '0' ∨ cs = []) : Nat.toDigits 10 (digitsValue (c :: cs)) = c :: cs := by
  rw [List.forall_mem_cons] at h
  have hvalue : digitsValue (c :: cs) =
      cs.foldl (fun n c => 10 * n + (c.toNat - 0x30)) (c.toNat - 0x30) := by
    simp [digitsValue]
  rw [hvalue]
  rcases hfront with hc | rfl
  · have hpos : 0 < c.toNat - 0x30 := by
      have := isDigit_bounds h.1
      have : c.toNat ≠ 0x30 := fun hzero => hc (Char.toNat_inj.1 hzero)
      omega
    rw [toDigits_foldl hpos h.2, toDigits_of_isDigit h.1, List.singleton_append]
  · exact toDigits_of_isDigit h.1

/-- Each number has one row of digits without a zero in front. -/
theorem readCount?_eq_some_iff {digits : List Char} {n : Nat} :
    readCount? digits = some n ↔ digits = Nat.toDigits 10 n := by
  constructor
  · intro h
    cases digits with
    | nil => cases h
    | cons c cs =>
        simp only [readCount?, Option.ite_none_right_eq_some, Option.some.injEq, Bool.and_eq_true,
          Bool.or_eq_true, bne_iff_ne, List.isEmpty_iff, List.all_eq_true] at h
        obtain ⟨⟨hdigits, hfront⟩, rfl⟩ := h
        exact (toDigits_digitsValue hdigits hfront).symm
  · rintro rfl
    rcases Nat.eq_zero_or_pos n with rfl | hn
    · rfl
    · have hdigits : ∀ c ∈ Nat.toDigits 10 n, c.isDigit = true :=
        fun _ => isDigit_of_mem_toDigits
      have hvalue := digitsValue_toDigits n
      obtain ⟨c, cs, hcs, hc⟩ := toDigits_eq_cons_of_pos hn
      rw [hcs] at hdigits hvalue ⊢
      rw [readCount?, List.all_eq_true.2 hdigits, bne_iff_ne.2 hc, hvalue]
      rfl

/-! ## the text of a dump -/

/-- What a dump tells: the bytes that it shows and, when it is cut, how many it leaves out. -/
structure Dump where
  shown : List UInt8
  leftOut : Option Nat
deriving DecidableEq, Repr

namespace Dump

/-- The note at the end of a dump that is cut. -/
def note : Option Nat → String
  | none => ""
  | some count => s!" ... (+{count} bytes)"

/-- The text of a dump. -/
def write (dump : Dump) : String :=
  spacedHex dump.shown ++ note dump.leftOut

/-- The byte of a group. -/
def readGroup? : List Char → Option UInt8
  | [high, low] => do return UInt8.ofNat (16 * (← lowerHexValue? high) + (← lowerHexValue? low))
  | _ => none

/-- The bytes of the fields in front of the note.  Without groups there still is one field, which
is empty. -/
def readGroups? : List (List Char) → Option (List UInt8)
  | [] => none
  | [[]] => some []
  | fields => fields.mapM readGroup?

/-- The field that a note begins with. -/
def dots : List Char := ['.', '.', '.']

/-- The count in the fields of a note, if there is a note. -/
def readNote? : List (List Char) → Option (Option Nat)
  | [] => some none
  | [first, '(' :: '+' :: digits, last] =>
    if first = dots ∧ last = "bytes)".toList then (readCount? digits).map some else none
  | _ => none

/-- Read a dump. -/
def read? (text : String) : Option Dump := do
  let fields := text.toList.splitOn ' '
  let shown ← readGroups? (fields.takeWhile (· != dots))
  let leftOut ← readNote? (fields.dropWhile (· != dots))
  return ⟨shown, leftOut⟩

/-! ## fields -/

/-- The digits of a byte, those of its high half first. -/
def group (b : UInt8) : List Char :=
  [Nat.digitChar (b.toNat / 16), Nat.digitChar (b.toNat % 16)]

/-- The fields of the bytes that are shown. -/
def groups : List UInt8 → List (List Char)
  | [] => [[]]
  | bytes => bytes.map group

/-- The fields of the note. -/
def noteFields : Option Nat → List (List Char)
  | none => []
  | some count => [dots, '(' :: '+' :: Nat.toDigits 10 count, "bytes)".toList]

/-- The fields of a dump. -/
def fields (dump : Dump) : List (List Char) :=
  groups dump.shown ++ noteFields dump.leftOut

theorem eq_of_mem_groups {bytes : List UInt8} {field : List Char} (h : field ∈ groups bytes) :
    field = [] ∨ ∃ b, field = group b := by
  cases bytes with
  | nil => exact .inl (List.mem_singleton.1 h)
  | cons b bytes =>
      obtain ⟨b, -, hb⟩ := List.mem_map.1 h
      exact .inr ⟨b, hb.symm⟩

/-- The note begins with the first field that is no group. -/
theorem ne_dots_of_mem_groups {bytes : List UInt8} {field : List Char}
    (h : field ∈ groups bytes) : field ≠ dots := by
  rcases eq_of_mem_groups h with rfl | ⟨b, rfl⟩
  · simp [dots]
  · simp [group, dots]

theorem space_not_mem_groups {bytes : List UInt8} {field : List Char}
    (h : field ∈ groups bytes) : ' ' ∉ field := by
  have digits : ∀ n < 16, ' ' ≠ Nat.digitChar n := by decide
  rcases eq_of_mem_groups h with rfl | ⟨b, rfl⟩
  · simp
  · have hb := b.toNat_lt
    have hhigh := digits (b.toNat / 16) (by omega)
    have hlow := digits (b.toNat % 16) (by omega)
    simp [group, hhigh, hlow]

theorem space_not_mem_noteFields {leftOut : Option Nat} {field : List Char}
    (h : field ∈ noteFields leftOut) : ' ' ∉ field := by
  cases leftOut with
  | none => cases h
  | some count =>
      have hdigits : ' ' ∉ Nat.toDigits 10 count := fun hspace =>
        absurd (isDigit_of_mem_toDigits hspace) (by decide)
      simp only [noteFields, List.mem_cons, List.not_mem_nil, or_false] at h
      rcases h with rfl | rfl | rfl
      · decide
      · simp [hdigits]
      · decide

/-- Texts with a separator between them are the first one and, each behind a separator, the
others. -/
theorem intercalate_cons (separator : Char) (first : List Char) (rest : List (List Char)) :
    [separator].intercalate (first :: rest) = first ++ rest.flatMap (separator :: ·) := by
  induction rest generalizing first with
  | nil => simp
  | cons next rest ih => simp [List.intercalate_cons_cons, ih]

theorem toList_note (leftOut : Option Nat) :
    (note leftOut).toList = (noteFields leftOut).flatMap (' ' :: ·) := by
  cases leftOut with
  | none => rfl
  | some count =>
      simp only [note, noteFields, String.toList_append, toString, Nat.toList_repr]
      rfl

theorem toList_hexByte (b : UInt8) : (hexByte b).toList = group b := by
  have every : ∀ n < 256, (hexByte (UInt8.ofNat n)).toList = group (UInt8.ofNat n) := by
    decide +kernel
  simpa using every b.toNat b.toNat_lt

theorem toList_write (dump : Dump) :
    ∃ first rest, dump.fields = first :: rest ∧
      dump.write.toList = first ++ rest.flatMap (' ' :: ·) := by
  obtain ⟨shown, leftOut⟩ := dump
  cases shown with
  | nil => exact ⟨[], noteFields leftOut, rfl, by simp [write, spacedHex, toList_note]⟩
  | cons b bytes =>
      refine ⟨group b, bytes.map group ++ noteFields leftOut, rfl, ?_⟩
      rw [write, spacedHex, String.toList_append, toList_note, String.toList_intercalate,
        List.flatMap_append, ← List.append_assoc]
      simp [intercalate_cons, toList_hexByte, Function.comp_def]

/-- The fields of a dump are what stands between the spaces of its text. -/
theorem splitOn_eq_fields_iff {text : String} {dump : Dump} :
    text.toList.splitOn ' ' = dump.fields ↔ text = dump.write := by
  have hspace : ∀ field ∈ dump.fields, ' ' ∉ field := fun field hfield =>
    (List.mem_append.1 hfield).elim space_not_mem_groups space_not_mem_noteFields
  obtain ⟨first, rest, hfields, hwrite⟩ := toList_write dump
  rw [hfields] at hspace ⊢
  rw [splitOn_eq_cons_iff, ← String.toList_inj, hwrite]
  exact and_iff_left hspace

/-! ## reading -/

/-- Each byte has one group. -/
theorem readGroup?_eq_some_iff {field : List Char} {b : UInt8} :
    readGroup? field = some b ↔ field = group b := by
  constructor
  · intro h
    match field, h with
    | [high, low], h =>
        simp only [readGroup?, bind, pure, Option.bind_eq_some_iff, Option.some.injEq,
          lowerHexValue?_eq_some_iff] at h
        obtain ⟨n, ⟨hn, rfl⟩, m, ⟨hm, rfl⟩, rfl⟩ := h
        have hnumber : (UInt8.ofNat (16 * n + m)).toNat = 16 * n + m :=
          UInt8.toNat_ofNat_of_lt' (by change _ < 256; omega)
        have hhigh : (16 * n + m) / 16 = n := by omega
        have hlow : (16 * n + m) % 16 = m := by omega
        rw [group, hnumber, hhigh, hlow]
  · rintro rfl
    have hb := b.toNat_lt
    have hhigh := lowerHexValue?_eq_some_iff.2 ⟨show b.toNat / 16 < 16 by omega, rfl⟩
    have hlow := lowerHexValue?_eq_some_iff.2 ⟨show b.toNat % 16 < 16 by omega, rfl⟩
    simp only [readGroup?, group, hhigh, hlow, bind, pure, Option.bind_some, Nat.div_add_mod,
      UInt8.ofNat_toNat]

theorem mapM_readGroup?_eq_some_iff {fields : List (List Char)} {bytes : List UInt8} :
    fields.mapM readGroup? = some bytes ↔ fields = bytes.map group := by
  induction fields generalizing bytes with
  | nil => cases bytes <;> simp
  | cons field fields ih =>
      simp only [List.mapM_cons, bind, pure, Option.bind_eq_some_iff, readGroup?_eq_some_iff, ih,
        Option.some.injEq]
      constructor
      · rintro ⟨b, rfl, rest, rfl, rfl⟩
        rfl
      · intro h
        obtain ⟨b, rest, rfl, hb, hrest⟩ := List.map_eq_cons_iff.1 h.symm
        exact ⟨b, hb.symm, rest, hrest.symm, rfl⟩

theorem readGroups?_eq_some_iff {fields : List (List Char)} {bytes : List UInt8} :
    readGroups? fields = some bytes ↔ fields = groups bytes := by
  unfold readGroups?
  split
  · cases bytes <;> simp [groups]
  · cases bytes <;> simp [groups, group]
  · next hnil hempty =>
    rw [mapM_readGroup?_eq_some_iff]
    cases bytes with
    | nil => exact ⟨fun h => (hnil h).elim, fun h => (hempty h).elim⟩
    | cons b bytes => rfl

theorem readNote?_eq_some_iff {fields : List (List Char)} {leftOut : Option Nat} :
    readNote? fields = some leftOut ↔ fields = noteFields leftOut := by
  unfold readNote?
  split
  · cases leftOut <;> simp [noteFields]
  · next first digits last =>
    simp only [Option.ite_none_right_eq_some, Option.map_eq_some_iff, readCount?_eq_some_iff]
    constructor
    · rintro ⟨⟨rfl, rfl⟩, count, rfl, rfl⟩
      rfl
    · intro h
      cases leftOut with
      | none => cases h
      | some count =>
          simp only [noteFields, List.cons.injEq, true_and, and_true] at h
          obtain ⟨rfl, rfl, rfl⟩ := h
          exact ⟨⟨rfl, rfl⟩, count, rfl, rfl⟩
  · next hnone hsome =>
    constructor
    · intro h
      cases h
    · rintro rfl
      cases leftOut with
      | none => exact (hnone rfl).elim
      | some count => exact (hsome _ _ _ rfl).elim

/-- **A text is read as a dump exactly if the dump is written so.** -/
theorem read?_eq_some_iff {text : String} {dump : Dump} :
    read? text = some dump ↔ text = dump.write := by
  rw [← splitOn_eq_fields_iff]
  simp only [read?, bind, pure, Option.bind_eq_some_iff, readGroups?_eq_some_iff,
    readNote?_eq_some_iff, Option.some.injEq]
  constructor
  · rintro ⟨shown, hshown, leftOut, hleftOut, rfl⟩
    rw [fields, ← hshown, ← hleftOut, List.takeWhile_append_dropWhile]
  · intro h
    have hgroups : ∀ field ∈ groups dump.shown, (field != dots) = true := fun field hfield =>
      bne_iff_ne.2 (ne_dots_of_mem_groups hfield)
    have hnote : ∀ field ∈ (noteFields dump.leftOut).head?, (field != dots) = false := by
      cases dump.leftOut <;> simp [noteFields]
    obtain ⟨hfront, hback⟩ := span_append (· != dots) (noteFields dump.leftOut) hgroups hnote
    rw [h, fields]
    exact ⟨dump.shown, hfront, dump.leftOut, hback, rfl⟩

theorem write_inj {dump other : Dump} : dump.write = other.write ↔ dump = other := by
  rw [← read?_eq_some_iff, read?_eq_some_iff.2 rfl, Option.some.injEq]

/-! ## dumps of bytes -/

variable {bytes others : List UInt8} {limit : Option Int}

/-- How many more bytes there are than the limit, where there are more. -/
def surplus? (size : Nat) : Option Int → Option Nat
  | none => none
  | some most => if most < size then some (size - most).toNat else none

/-- What the dump of bytes tells. -/
def ofBytes (bytes : List UInt8) (limit : Option Int) : Dump where
  shown := limit.elim bytes (shownBytes bytes)
  leftOut := surplus? bytes.length limit

theorem shownBytes_of_le {most : Int} (h : bytes.length ≤ most) :
    shownBytes bytes most = bytes := by
  rw [shownBytes, if_pos (by omega), List.take_of_length_le (by omega)]

/-- At a limit that is not negative the first bytes are shown, as many as the limit allows. -/
theorem shown_ofBytes (hlimit : ∀ most ∈ limit, 0 ≤ most) :
    (ofBytes bytes limit).shown =
      bytes.take (limit.elim bytes.length fun most => min most.toNat bytes.length) := by
  cases limit with
  | none => simp [ofBytes]
  | some most =>
      have hmost : 0 ≤ most := hlimit most rfl
      simp [ofBytes, shownBytes, hmost, List.take_eq_take_iff]

/-- A dump is cut exactly if there are more bytes than the limit. -/
theorem isSome_leftOut_ofBytes :
    (ofBytes bytes limit).leftOut.isSome ↔ ∃ most ∈ limit, most < bytes.length := by
  cases limit with
  | none => simp [ofBytes, surplus?]
  | some most => by_cases h : most < bytes.length <;> simp [ofBytes, surplus?, h]

/-- A dump accounts for all bytes exactly at the limits that are not negative. -/
theorem accounts_iff :
    (ofBytes bytes limit).shown.length + (ofBytes bytes limit).leftOut.getD 0 = bytes.length ↔
      ∀ most ∈ limit, 0 ≤ most := by
  cases limit with
  | none => simp [ofBytes, surplus?]
  | some most =>
      simp only [ofBytes, surplus?, Option.elim_some, shownBytes, List.length_take,
        Option.mem_some_iff, forall_eq']
      split <;> split <;> simp only [Option.getD_some, Option.getD_none] <;> omega

/-- At one limit, the dumps of two rows of bytes tell the same exactly if the rows are equally long
and agree where they are shown. -/
theorem ofBytes_eq_iff :
    ofBytes bytes limit = ofBytes others limit ↔
      bytes.length = others.length ∧
        (ofBytes bytes limit).shown = (ofBytes others limit).shown := by
  constructor
  · intro h
    refine ⟨?_, congrArg shown h⟩
    cases limit with
    | none => exact congrArg (List.length ∘ shown) h
    | some most =>
        simp only [ofBytes, mk.injEq, surplus?, Option.elim_some] at h
        obtain ⟨hshown, hleftOut⟩ := h
        split at hleftOut <;> split at hleftOut
        · simp only [Option.some.injEq] at hleftOut
          omega
        · cases hleftOut
        · cases hleftOut
        · -- neither dump is cut, so each shows all of its bytes
          rw [shownBytes_of_le (by omega), shownBytes_of_le (by omega)] at hshown
          rw [hshown]
  · rintro ⟨hlength, hshown⟩
    exact (mk.injEq ..).mpr ⟨hshown, congrArg (surplus? · limit) hlength⟩

end Dump

/-- What the dump of bytes tells, at any limit. -/
theorem hexDump_eq_write (bytes : List UInt8) (limit : Option Int) :
    hexDump bytes limit = (Dump.ofBytes bytes limit).write := by
  cases limit with
  | none => simp [hexDump, Dump.ofBytes, Dump.surplus?, Dump.write, Dump.note]
  | some most =>
      by_cases h : most < bytes.length
      · obtain ⟨count, hcount⟩ := Int.eq_ofNat_of_zero_le (a := bytes.length - most) (by omega)
        simp only [hexDump, Dump.ofBytes, Dump.surplus?, Dump.write, Dump.note, h, if_true, hcount]
        rfl
      · have hshown := Dump.shownBytes_of_le (Int.not_lt.1 h)
        simp [hexDump, Dump.ofBytes, Dump.surplus?, Dump.write, Dump.note, h, hshown]

/-- At one limit, two rows of bytes have the same dump exactly if they are equally long and agree
where they are shown. -/
theorem hexDump_eq_iff {bytes others : List UInt8} {limit : Option Int} :
    hexDump bytes limit = hexDump others limit ↔
      bytes.length = others.length ∧
        (Dump.ofBytes bytes limit).shown = (Dump.ofBytes others limit).shown := by
  rw [hexDump_eq_write, hexDump_eq_write, Dump.write_inj, Dump.ofBytes_eq_iff]

/-- **A dump is faithful.**  Its text is read in one way only: it shows the first bytes, as many as
the limit allows and all of them without a limit; a note at its end tells, exactly where there are
more, how many these are.  So different bytes have different dumps without a limit. -/
theorem hexDump_faithful {limit : Option Int} (hlimit : ∀ most ∈ limit, 0 ≤ most)
    (bytes : List UInt8) :
    (∃ dump : Dump, Dump.read? (hexDump bytes limit) = some dump ∧
      (∀ other : Dump, hexDump bytes limit = other.write ↔ other = dump) ∧
      dump.shown = bytes.take (limit.elim bytes.length fun most => min most.toNat bytes.length) ∧
      (dump.leftOut.isSome ↔ ∃ most ∈ limit, most < bytes.length) ∧
      dump.shown.length + dump.leftOut.getD 0 = bytes.length) ∧
    Function.Injective (hexDump · none) := by
  have hwrite := hexDump_eq_write bytes limit
  constructor
  · refine ⟨Dump.ofBytes bytes limit, Dump.read?_eq_some_iff.2 hwrite, fun other => ?_,
      Dump.shown_ofBytes hlimit, Dump.isSome_leftOut_ofBytes, Dump.accounts_iff.2 hlimit⟩
    rw [hwrite, Dump.write_inj, eq_comm]
  · intro bytes others h
    exact (hexDump_eq_iff.1 h).2

/-- At the limit zero a dump is nothing but the note, and tells how many bytes there are. -/
theorem hexDump_faithful_nothingShown :
    (∀ most ∈ some (0 : Int), 0 ≤ most) ∧
      hexDump [0x66, 0x0A] (some 0) = " ... (+2 bytes)" ∧
      Dump.read? " ... (+2 bytes)" = some ⟨[], some 2⟩ := by
  have hlimit : ∀ most ∈ some (0 : Int), 0 ≤ most := by simp
  have htext : hexDump [0x66, 0x0A] (some 0) = " ... (+2 bytes)" := by decide +kernel
  obtain ⟨⟨⟨shown, leftOut⟩, hread, -, hshown, hcut, haccounts⟩, -⟩ :=
    hexDump_faithful hlimit [0x66, 0x0A]
  obtain rfl : shown = [] := by simpa using hshown
  obtain ⟨count, rfl⟩ := Option.isSome_iff_exists.1 (hcut.2 ⟨0, rfl, by decide⟩)
  obtain rfl : count = 2 := by simpa using haccounts
  exact ⟨hlimit, htext, htext ▸ hread⟩

end ServerBrowser.Text
