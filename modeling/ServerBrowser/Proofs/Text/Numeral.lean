import Mathlib.Data.List.TakeWhile
import ServerBrowser.Proofs.Decimal

/-!
# ServerBrowser.Proofs.Text.Numeral

The grammar of the integers that a text may hold:

```
numeral = {blank} ["+" | "-"] digit {["_"] digit} {blank}
```

Digits and blanks are those of every script, and there are at most 4300 digits.

* `readInt_eq_ok_iff` — an integer is read exactly from its spellings;
* `length_toDigits_of_readInt` — an integer that was read has no more digits in ASCII than its
  spelling may have.
-/

namespace ServerBrowser.Text

/-- Digits, with their values: single underscores may stand between them. -/
inductive Grouped : List Nat → List Char → Prop where
  | last {c : Char} {value : Nat} (digit : digitValue? c = some value) : Grouped [value] [c]
  | cons {c : Char} {value : Nat} {values : List Nat} {cs : List Char}
      (digit : digitValue? c = some value) (more : Grouped values cs) :
      Grouped (value :: values) (c :: cs)
  | underscore {c : Char} {value : Nat} {values : List Nat} {cs : List Char}
      (digit : digitValue? c = some value) (more : Grouped values cs) :
      Grouped (value :: values) (c :: '_' :: cs)

/-- An optional sign; `true` for a minus. -/
inductive Sign : Bool → List Char → Prop where
  | absent : Sign false []
  | plus : Sign false ['+']
  | minus : Sign true ['-']

/-- The number that a row of digits stands for, from their values. -/
def valueOf (values : List Nat) : Nat :=
  values.foldl (10 * · + ·) 0

/-- A spelling of an integer. -/
structure Numeral where
  leading : List Char
  negative : Bool
  sign : List Char
  values : List Nat
  digits : List Char
  trailing : List Char
  leading_blank : ∀ c ∈ leading, isBlank c = true
  signs : Sign negative sign
  grouped : Grouped values digits
  length_le : values.length ≤ digitLimit
  trailing_blank : ∀ c ∈ trailing, isBlank c = true

namespace Numeral

/-- The text of a spelling. -/
def text (numeral : Numeral) : String :=
  String.ofList (numeral.leading ++ numeral.sign ++ numeral.digits ++ numeral.trailing)

/-- The integer that is spelled. -/
def value (numeral : Numeral) : Int :=
  signed numeral.negative (valueOf numeral.values)

end Numeral

/-- Whether a text is a spelling of an integer. -/
def Spells (text : String) (i : Int) : Prop :=
  ∃ numeral : Numeral, numeral.text = text ∧ numeral.value = i

/-! ## characters brought to ASCII -/

theorem foldChar_of_lt {c : Char} (h : c.toNat < 0x7F) : foldChar c = c :=
  if_pos h

/-- The first row of digits is the only one in ASCII. -/
theorem eq_asciiDigit_of_digitValue? {c : Char} {value : Nat} (h : digitValue? c = some value)
    (ascii : c.toNat < 0x7F) : c = asciiDigit value := by
  have first : ∀ start ∈ zeroDigits, start < 0x7F → start = 0x30 := by decide
  obtain ⟨start, found, rfl⟩ := Option.map_eq_some_iff.1 h
  have bounds := List.find?_some found
  simp only [Bool.and_eq_true, decide_eq_true_eq] at bounds
  obtain rfl := first start (List.mem_of_find?_eq_some found) (by omega)
  rw [asciiDigit, Nat.add_sub_cancel' bounds.1, Char.ofNat_toNat]

/-- No digit of any script is a blank. -/
theorem isWideBlank_of_digitValue? {c : Char} {value : Nat} (h : digitValue? c = some value) :
    isWideBlank c = false := by
  have apart : ∀ start ∈ zeroDigits, ∀ d < 10, isWideBlank (Char.ofNat (start + d)) = false := by
    decide
  obtain ⟨start, found, rfl⟩ := Option.map_eq_some_iff.1 h
  have bounds := List.find?_some found
  simp only [Bool.and_eq_true, decide_eq_true_eq] at bounds
  have := apart start (List.mem_of_find?_eq_some found) (c.toNat - start) (by omega)
  rwa [Nat.add_sub_cancel' bounds.1, Char.ofNat_toNat] at this

/-- A digit of any script is brought to the digit of ASCII that has its value. -/
theorem foldChar_of_digitValue? {c : Char} {value : Nat} (h : digitValue? c = some value) :
    foldChar c = asciiDigit value := by
  by_cases ascii : c.toNat < 0x7F
  · rw [foldChar_of_lt ascii, eq_asciiDigit_of_digitValue? h ascii]
  · simp [foldChar, ascii, isWideBlank_of_digitValue? h, h]

theorem digitValue?_of_isDigit {c : Char} (h : c.isDigit = true) :
    digitValue? c = some (c.toNat - 0x30) := by
  have bounds := isDigit_bounds h
  simp [digitValue?, zeroDigits, List.find?_cons_of_pos, bounds.1, show c.toNat < 58 by omega]

theorem not_isAsciiBlank_of_le {c : Char} (h : 0x7F ≤ c.toNat) : isAsciiBlank c = false := by
  simp only [isAsciiBlank, Bool.or_eq_false_iff, beq_eq_false_iff_ne, Bool.and_eq_false_iff,
    decide_eq_false_iff_not]
  exact ⟨by rintro rfl; simp at h, by omega⟩

theorem not_isWideBlank_of_lt {c : Char} (h : c.toNat < 0x7F) : isWideBlank c = false := by
  simp only [isWideBlank, Bool.or_eq_false_iff, beq_eq_false_iff_ne, Bool.and_eq_false_iff,
    decide_eq_false_iff_not]
  omega

/-- The digits of ASCII are digits, no blanks, and have their values. -/
theorem asciiDigit_spec {value : Nat} (h : value < 10) :
    (asciiDigit value).isDigit = true ∧ isAsciiBlank (asciiDigit value) = false ∧
      (asciiDigit value).toNat - 0x30 = value := by
  have all : ∀ value < 10, (asciiDigit value).isDigit = true ∧
      isAsciiBlank (asciiDigit value) = false ∧ (asciiDigit value).toNat - 0x30 = value := by
    decide
  exact all value h

/-- What becomes of a character: a blank beyond ASCII becomes the space, a digit the digit of ASCII
that has its value, and whatever else is left as it is. -/
theorem foldChar_cases (c : Char) :
    (isWideBlank c = true ∧ foldChar c = ' ') ∨
    (∃ value, digitValue? c = some value ∧ foldChar c = asciiDigit value) ∨
    (isWideBlank c = false ∧ digitValue? c = none ∧ foldChar c = c) := by
  by_cases wide : isWideBlank c = true
  · have beyond : ¬ c.toNat < 0x7F := fun ascii => by simp [not_isWideBlank_of_lt ascii] at wide
    exact .inl ⟨wide, by simp [foldChar, beyond, wide]⟩
  · cases digit : digitValue? c with
    | none => exact .inr (.inr ⟨by simpa using wide, rfl, by simp [foldChar, wide, digit]⟩)
    | some value => exact .inr (.inl ⟨value, rfl, foldChar_of_digitValue? digit⟩)

theorem isAsciiBlank_foldChar (c : Char) : isAsciiBlank (foldChar c) = isBlank c := by
  rcases foldChar_cases c with ⟨wide, folded⟩ | ⟨value, digit, folded⟩ | ⟨narrow, -, folded⟩
  · simp [folded, isBlank, wide, isAsciiBlank]
  · have solid := (asciiDigit_spec (digitValue?_lt_ten digit)).2.1
    have narrow := isWideBlank_of_digitValue? digit
    have same : isAsciiBlank c = false := by
      by_cases ascii : c.toNat < 0x7F
      · rwa [eq_asciiDigit_of_digitValue? digit ascii]
      · exact not_isAsciiBlank_of_le (by omega)
    rw [folded, solid, isBlank, same, narrow, Bool.or_false]
  · rw [folded, isBlank, narrow, Bool.or_false]

/-- A character that becomes a digit of ASCII was a digit of the same value. -/
theorem digitValue?_of_foldChar {c : Char} (h : (foldChar c).isDigit = true) :
    digitValue? c = some ((foldChar c).toNat - 0x30) := by
  rcases foldChar_cases c with ⟨-, folded⟩ | ⟨value, digit, folded⟩ | ⟨-, -, folded⟩
  · simp [folded] at h
  · rw [digit, folded, (asciiDigit_spec (digitValue?_lt_ten digit)).2.2]
  · rw [folded] at h ⊢
    exact digitValue?_of_isDigit h

/-- Nothing becomes a sign or an underscore that was none before. -/
theorem foldChar_eq_iff {c mark : Char} (h : mark ∈ ['+', '-', '_']) :
    foldChar c = mark ↔ c = mark := by
  have solid : mark ≠ ' ' ∧ mark.isDigit = false ∧ mark.toNat < 0x7F := by
    simp only [List.mem_cons, List.not_mem_nil, or_false] at h
    rcases h with rfl | rfl | rfl <;> decide
  constructor
  · intro folded
    rcases foldChar_cases c with ⟨-, other⟩ | ⟨value, digit, other⟩ | ⟨-, -, other⟩
    · exact absurd (folded.symm.trans other) solid.1
    · have := (asciiDigit_spec (digitValue?_lt_ten digit)).1
      simp [← other, folded, solid.2.1] at this
    · exact other.symm.trans folded
  · rintro rfl
    exact foldChar_of_lt solid.2.2

/-! ## blanks around a text -/

theorem dropWhile_append_of_solid {p : Char → Bool} {leading cs : List Char}
    (blank : ∀ c ∈ leading, p c = true) (solid : ∀ c ∈ cs, p c = false) :
    (leading ++ cs).dropWhile p = cs := by
  rw [List.dropWhile_append_of_pos blank, dropWhile_eq_self solid]

/-- What stands between the blanks at both ends is left. -/
theorem trimBy_append {p : Char → Bool} {leading cs trailing : List Char}
    (hl : ∀ c ∈ leading, p c = true) (solid : ∀ c ∈ cs, p c = false)
    (ht : ∀ c ∈ trailing, p c = true) : trimBy p (leading ++ cs ++ trailing) = cs := by
  have hr : ∀ c ∈ trailing.reverse, p c = true := fun c hc => ht c (List.mem_reverse.1 hc)
  have hs : ∀ c ∈ cs.reverse, p c = false := fun c hc => solid c (List.mem_reverse.1 hc)
  rw [trimBy, List.append_assoc, List.dropWhile_append_of_pos hl]
  cases cs with
  | nil =>
      have none : trailing.dropWhile p = [] := List.dropWhile_eq_nil_iff.2 ht
      simp [none]
  | cons c cs =>
      have first : p c = false := solid c List.mem_cons_self
      rw [List.cons_append, List.dropWhile_cons_of_neg (by simp [first]), ← List.cons_append,
        List.reverse_append, dropWhile_append_of_solid hr hs, List.reverse_reverse]

/-- Only blanks are trimmed off a text. -/
theorem exists_trimBy (p : Char → Bool) (cs : List Char) :
    ∃ leading trailing, cs = leading ++ trimBy p cs ++ trailing ∧
      (∀ c ∈ leading, p c = true) ∧ ∀ c ∈ trailing, p c = true := by
  have front := List.takeWhile_append_dropWhile (p := p) (l := cs)
  have back := List.takeWhile_append_dropWhile (p := p) (l := (cs.dropWhile p).reverse)
  refine ⟨cs.takeWhile p, ((cs.dropWhile p).reverse.takeWhile p).reverse, ?_,
    fun c hc => (List.mem_takeWhile_imp hc), fun c hc =>
      (List.mem_takeWhile_imp (List.mem_reverse.1 hc))⟩
  have rest : cs.dropWhile p =
      trimBy p cs ++ ((cs.dropWhile p).reverse.takeWhile p).reverse := by
    rw [trimBy, ← List.reverse_append, back, List.reverse_reverse]
  rw [List.append_assoc, ← rest, front]

/-! ## digits with underscores between them -/

/-- Digits of ASCII with single underscores between them, as the reader checks them. -/
structure IsBody (body : List Char) : Prop where
  solid : body ≠ []
  chars : ∀ c ∈ body, (c.isDigit || c == '_') = true
  starts : body.head? ≠ some '_'
  separate : underscoresSeparate body = true

/-- The check, digit by digit. -/
theorem isBody_cons_iff {c : Char} {cs : List Char} :
    IsBody (c :: cs) ↔ c.isDigit = true ∧
      (cs = [] ∨ IsBody cs ∨ ∃ rest, cs = '_' :: rest ∧ IsBody rest) := by
  have mark : c.isDigit = true → c ≠ '_' := fun h => ne_of_isDigit h (by decide)
  constructor
  · rintro ⟨-, chars, starts, separate⟩
    rw [List.forall_mem_cons] at chars
    have digit : c.isDigit = true := by
      have := chars.1
      simp_all
    refine ⟨digit, ?_⟩
    match cs with
    | [] => exact .inl rfl
    | d :: rest =>
      by_cases under : d = '_'
      · subst under
        refine .inr (.inr ⟨rest, rfl, ?_⟩)
        cases rest with
        | nil => simp [underscoresSeparate] at separate
        | cons e rest => constructor <;> simp_all [underscoresSeparate]
      · refine .inr (.inl ?_)
        constructor <;> simp_all [underscoresSeparate]
  · rintro ⟨digit, rfl | body | ⟨rest, rfl, body⟩⟩
    · have := mark digit
      constructor <;> simp_all [underscoresSeparate]
    · have := mark digit
      obtain ⟨solid, chars, starts, separate⟩ := body
      cases cs with
      | nil => exact absurd rfl solid
      | cons d cs => constructor <;> simp_all [underscoresSeparate]
    · have := mark digit
      obtain ⟨solid, chars, starts, separate⟩ := body
      cases rest with
      | nil => exact absurd rfl solid
      | cons d rest => constructor <;> simp_all [underscoresSeparate]

/-- The digits of a spelling pass the check. -/
theorem Grouped.isBody {values : List Nat} {cs : List Char} (h : Grouped values cs) :
    IsBody (cs.map foldChar) := by
  have ascii : ∀ {c : Char} {value : Nat}, digitValue? c = some value →
      (foldChar c).isDigit = true := fun digit => by
    rw [foldChar_of_digitValue? digit]
    exact (asciiDigit_spec (digitValue?_lt_ten digit)).1
  induction h with
  | last digit => exact isBody_cons_iff.2 ⟨ascii digit, .inl rfl⟩
  | cons digit _ ih => exact isBody_cons_iff.2 ⟨ascii digit, .inr (.inl ih)⟩
  | underscore digit _ ih =>
      exact isBody_cons_iff.2 ⟨ascii digit, .inr (.inr ⟨_, rfl, ih⟩)⟩

/-- What passes the check is the digits of a spelling. -/
theorem exists_grouped : ∀ {cs : List Char}, IsBody (cs.map foldChar) → ∃ values, Grouped values cs
  | [], body => absurd rfl body.solid
  | c :: cs, body => by
    obtain ⟨isDigit, rest⟩ := isBody_cons_iff.1 body
    have digit := digitValue?_of_foldChar isDigit
    rcases rest with none | more | ⟨rest, under, more⟩
    · obtain rfl := List.map_eq_nil_iff.1 none
      exact ⟨_, .last digit⟩
    · obtain ⟨values, grouped⟩ := exists_grouped more
      exact ⟨_, .cons digit grouped⟩
    · obtain ⟨d, ds, rfl, mark, rfl⟩ := List.map_eq_cons_iff.1 under
      obtain rfl := (foldChar_eq_iff (by simp)).1 mark
      obtain ⟨values, grouped⟩ := exists_grouped more
      exact ⟨_, .underscore digit grouped⟩

theorem Grouped.lt_ten {values : List Nat} {cs : List Char} (h : Grouped values cs) :
    ∀ value ∈ values, value < 10 := by
  induction h with
  | last digit => simpa using digitValue?_lt_ten digit
  | cons digit _ ih => exact List.forall_mem_cons.2 ⟨digitValue?_lt_ten digit, ih⟩
  | underscore digit _ ih => exact List.forall_mem_cons.2 ⟨digitValue?_lt_ten digit, ih⟩

/-- Without its underscores a spelling is the digits of ASCII that have the values. -/
theorem Grouped.filter {values : List Nat} {cs : List Char} (h : Grouped values cs) :
    (cs.map foldChar).filter (· != '_') = values.map asciiDigit := by
  have kept : ∀ {c : Char} {value : Nat}, digitValue? c = some value →
      foldChar c = asciiDigit value ∧ asciiDigit value ≠ '_' := fun digit =>
    ⟨foldChar_of_digitValue? digit,
      ne_of_isDigit (asciiDigit_spec (digitValue?_lt_ten digit)).1 (by decide)⟩
  have mark : foldChar '_' = '_' := rfl
  induction h with
  | last digit => simp [kept digit]
  | cons digit _ ih => simp [kept digit, ih]
  | underscore digit _ ih => simp [kept digit, ih, mark]

/-- Digits of ASCII stand for what their values stand for. -/
theorem digitsValue_map_asciiDigit {values : List Nat} (h : ∀ value ∈ values, value < 10) :
    digitsValue (values.map asciiDigit) = valueOf values := by
  have start : ∀ n : Nat, (values.map asciiDigit).foldl (fun n c => 10 * n + (c.toNat - 0x30)) n =
      values.foldl (10 * · + ·) n := by
    induction values with
    | nil => simp
    | cons value values ih =>
        rw [List.forall_mem_cons] at h
        intro n
        rw [List.map_cons, List.foldl_cons, List.foldl_cons, (asciiDigit_spec h.1).2.2, ih h.2]
  exact start 0

/-! ## numerals -/

theorem splitSign_append {negative : Bool} {sign body : List Char} (h : Sign negative sign)
    (digits : IsBody body) : splitSign (sign ++ body) = (negative, body) := by
  cases h with
  | absent =>
      match body, digits with
      | c :: cs, digits =>
        have isDigit := (isBody_cons_iff.1 digits).1
        have plus : c ≠ '+' := ne_of_isDigit isDigit (by decide)
        have minus : c ≠ '-' := ne_of_isDigit isDigit (by decide)
        simp [splitSign, plus, minus]
      | [], digits => exact absurd rfl digits.solid
  | plus => rfl
  | minus => rfl

/-- A sign is split off as it was written. -/
theorem exists_sign (cs : List Char) :
    ∃ sign, Sign (splitSign cs).1 sign ∧ cs = sign ++ (splitSign cs).2 := by
  unfold splitSign
  split
  · exact ⟨_, .minus, rfl⟩
  · exact ⟨_, .plus, rfl⟩
  · exact ⟨_, .absent, rfl⟩

theorem Sign.map_foldChar {negative : Bool} {sign : List Char} (h : Sign negative sign) :
    sign.map foldChar = sign := by
  cases h <;> rfl

/-- What becomes a sign was that sign. -/
theorem Sign.of_map_foldChar {negative : Bool} {cs : List Char}
    (h : Sign negative (cs.map foldChar)) : Sign negative cs := by
  generalize folded : cs.map foldChar = sign at h
  cases h with
  | absent =>
      obtain rfl := List.map_eq_nil_iff.1 folded
      exact .absent
  | plus =>
      obtain ⟨c, rest, rfl, mark, none⟩ := List.map_eq_cons_iff.1 folded
      obtain rfl := (foldChar_eq_iff (by simp)).1 mark
      obtain rfl := List.map_eq_nil_iff.1 none
      exact .plus
  | minus =>
      obtain ⟨c, rest, rfl, mark, none⟩ := List.map_eq_cons_iff.1 folded
      obtain rfl := (foldChar_eq_iff (by simp)).1 mark
      obtain rfl := List.map_eq_nil_iff.1 none
      exact .minus

/-- No blank stands in a sign with its digits. -/
theorem isAsciiBlank_of_mem {negative : Bool} {sign body : List Char} (signs : Sign negative sign)
    (digits : IsBody body) : ∀ c ∈ sign ++ body, isAsciiBlank c = false := by
  have solid : ∀ c : Char, 0x2B ≤ c.toNat → isAsciiBlank c = false := fun c hc => by
    simp only [isAsciiBlank, Bool.or_eq_false_iff, beq_eq_false_iff_ne, Bool.and_eq_false_iff,
      decide_eq_false_iff_not]
    exact ⟨by rintro rfl; simp at hc, by omega⟩
  intro c hc
  apply solid
  rcases List.mem_append.1 hc with mark | inside
  · cases signs <;> simp_all
  · have := digits.chars c inside
    simp only [Bool.or_eq_true, beq_iff_eq] at this
    rcases this with digit | rfl
    · have := isDigit_bounds digit
      omega
    · decide

/-- What the reader reads: a sign, and digits that pass its check. -/
theorem readInt_eq_ok_iff_isBody {text : String} {i : Int} :
    readInt text = .ok i ↔ ∃ negative sign body, foldNumber text = sign ++ body ∧
      Sign negative sign ∧ IsBody body ∧ (body.filter (· != '_')).length ≤ digitLimit ∧
      signed negative (digitsValue (body.filter (· != '_'))) = i := by
  constructor
  · intro read
    obtain ⟨sign, signs, cut⟩ := exists_sign (foldNumber text)
    simp only [readInt] at read
    split at read
    · cases read
    · next marks =>
      split at read
      · cases read
      · next short =>
        split at read
        · cases read
        · next whole =>
          simp only [Bool.or_eq_true, not_or, Bool.not_eq_true, Bool.not_eq_eq_eq_not,
            Bool.not_true, List.isEmpty_iff, Bool.not_eq_false, decide_eq_false_iff_not] at marks whole
          have all := List.dropWhile_eq_nil_iff.1 whole.2
          have body := List.takeWhile_eq_self_iff.2 all
          rw [body] at marks short whole read
          have solid : (splitSign (foldNumber text)).2 ≠ [] := fun none => by
            simp [none] at whole
          exact ⟨_, sign, _, cut, signs, ⟨solid, all, marks.1, marks.2⟩, by omega,
            Except.ok.inj read⟩
  · rintro ⟨negative, sign, body, cut, signs, digits, short, rfl⟩
    have all := List.takeWhile_eq_self_iff.2 digits.chars
    have rest := List.dropWhile_eq_nil_iff.2 digits.chars
    have solid : body.filter (· != '_') ≠ [] := by
      cases body with
      | nil => exact absurd rfl digits.solid
      | cons c cs =>
        have mark : c ≠ '_' := ne_of_isDigit (isBody_cons_iff.1 digits).1 (by decide)
        simp [mark]
    simp only [readInt, cut, splitSign_append signs digits, all, rest]
    rw [if_neg (by simp [digits.starts, digits.separate]), if_neg (by omega),
      if_neg (by simpa using solid)]

/-- An integer is read exactly from its spellings. -/
theorem readInt_eq_ok_iff {text : String} {i : Int} : readInt text = .ok i ↔ Spells text i := by
  rw [readInt_eq_ok_iff_isBody]
  constructor
  · rintro ⟨negative, sign, body, cut, signs, digits, short, rfl⟩
    obtain ⟨leading, trailing, whole, before, after⟩ :=
      exists_trimBy isAsciiBlank (text.toList.map foldChar)
    rw [← foldNumber, cut] at whole
    obtain ⟨front, back, chars, hfront, rfl⟩ := List.map_eq_append_iff.1 whole
    obtain ⟨front, middle, rfl, rfl, hmiddle⟩ := List.map_eq_append_iff.1 hfront
    obtain ⟨mark, rest, rfl, rfl, rfl⟩ := List.map_eq_append_iff.1 hmiddle
    obtain ⟨values, grouped⟩ := exists_grouped digits
    rw [grouped.filter, List.length_map] at short
    rw [List.forall_mem_map] at before after
    refine ⟨⟨front, negative, mark, values, rest, back, ?_, signs.of_map_foldChar, grouped, short, ?_⟩,
      ?_, ?_⟩
    · simpa only [isAsciiBlank_foldChar] using before
    · simpa only [isAsciiBlank_foldChar] using after
    · rw [Numeral.text, List.append_assoc front, ← chars, String.ofList_toList]
    · rw [Numeral.value, grouped.filter, digitsValue_map_asciiDigit grouped.lt_ten]
  · rintro ⟨numeral, rfl, rfl⟩
    have body := numeral.grouped.isBody
    refine ⟨numeral.negative, numeral.sign, numeral.digits.map foldChar, ?_, numeral.signs, body,
      ?_, ?_⟩
    · have blank : ∀ {cs : List Char}, (∀ c ∈ cs, isBlank c = true) →
          ∀ c ∈ cs.map foldChar, isAsciiBlank c = true := fun h =>
        List.forall_mem_map.2 fun c hc => (isAsciiBlank_foldChar c).trans (h c hc)
      rw [foldNumber, Numeral.text, String.toList_ofList, List.map_append, List.map_append,
        List.map_append, numeral.signs.map_foldChar, List.append_assoc (List.map _ _)]
      exact trimBy_append (blank numeral.leading_blank) (isAsciiBlank_of_mem numeral.signs body)
        (blank numeral.trailing_blank)
    · rw [numeral.grouped.filter, List.length_map]
      exact numeral.length_le
    · rw [numeral.grouped.filter, digitsValue_map_asciiDigit numeral.grouped.lt_ten,
        Numeral.value]

/-! ## the length of what was read -/

/-- A number has no more digits than any row of digits that stands for it. -/
theorem length_toDigits_valueOf {values : List Nat} (solid : values ≠ [])
    (h : ∀ value ∈ values, value < 10) :
    (Nat.toDigits 10 (valueOf values)).length ≤ values.length := by
  have below : ∀ n : Nat, values.foldl (10 * · + ·) n < Nat.pow 10 values.length * (n + 1) := by
    clear solid
    induction values with
    | nil => simp
    | cons value values ih =>
        rw [List.forall_mem_cons] at h
        intro n
        have rest := ih h.2 (10 * n + value)
        have grow : 10 * n + value + 1 ≤ 10 * (n + 1) := by omega
        calc values.foldl (10 * · + ·) (10 * n + value)
          _ < Nat.pow 10 values.length * (10 * n + value + 1) := rest
          _ ≤ Nat.pow 10 values.length * (10 * (n + 1)) := Nat.mul_le_mul_left _ grow
          _ = Nat.pow 10 (value :: values).length * (n + 1) := by
            rw [← Nat.mul_assoc, List.length_cons]
            rfl
  have bound := below 0
  rw [Nat.zero_add, Nat.mul_one] at bound
  exact (Nat.length_toDigits_le_iff (by decide) (List.length_pos_iff.2 solid)).2 bound

theorem Grouped.ne_nil {values : List Nat} {cs : List Char} (h : Grouped values cs) :
    values ≠ [] ∧ cs ≠ [] := by
  cases h <;> simp

/-- What was read has no more digits than a numeral may have. -/
theorem length_toDigits_of_readInt {text : String} {i : Int} (h : readInt text = .ok i) :
    (Nat.toDigits 10 i.natAbs).length ≤ digitLimit := by
  obtain ⟨numeral, rfl, rfl⟩ := readInt_eq_ok_iff.1 h
  have size : numeral.value.natAbs = valueOf numeral.values := by
    simp only [Numeral.value, signed]
    split <;> simp
  rw [size]
  exact (length_toDigits_valueOf numeral.grouped.ne_nil.1 numeral.grouped.lt_ten).trans
    numeral.length_le

/-- An integer is read back from its text exactly if it has no more digits than a numeral may
have. -/
theorem readInt_toString_iff {i : Int} :
    readInt (toString i) = .ok i ↔ (Nat.toDigits 10 i.natAbs).length ≤ digitLimit :=
  ⟨length_toDigits_of_readInt, readInt_toString⟩

end ServerBrowser.Text
