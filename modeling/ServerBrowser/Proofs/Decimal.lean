import ServerBrowser.Address.Inet

/-!
# ServerBrowser.Proofs.Decimal

Integers and dotted addresses are written with the decimal digits of the core library,
`Nat.toDigits 10`, and read by readers of our own.  Here the two meet:

* `readInt_toString` — an integer of at most 4300 digits is read back from its text;
* `splitPart_toDigits_append` — a part of a dotted address is split off the text that goes on after
  it.
-/

namespace ServerBrowser

/-! ## digits as characters -/

theorem isDigit_of_mem_toDigits {n : Nat} {c : Char} (h : c ∈ Nat.toDigits 10 n) :
    c.isDigit = true :=
  Nat.isDigit_of_mem_toDigits (by decide) (by decide) h

/-- A digit is a character of ASCII, and neither a blank nor a sign nor any of the marks that
texts of numbers and addresses are divided by. -/
theorem isDigit_bounds {c : Char} (h : c.isDigit = true) : 0x30 ≤ c.toNat ∧ c.toNat ≤ 0x39 := by
  simp only [Char.isDigit, Bool.and_eq_true, decide_eq_true_eq] at h
  exact ⟨h.1, h.2⟩

theorem ne_of_isDigit {c d : Char} (h : c.isDigit = true) (hd : d.isDigit = false) : c ≠ d := by
  rintro rfl
  simp [h] at hd

/-- The digits of a number above zero do not start with the digit zero. -/
theorem toDigits_eq_cons_of_pos {n : Nat} (h : 0 < n) :
    ∃ c cs, Nat.toDigits 10 n = c :: cs ∧ c ≠ '0' := by
  induction n using Nat.strongRecOn with
  | _ n ih =>
      rw [Nat.toDigits_eq_if (by decide)]
      split
      · exact ⟨_, _, rfl, by simp; omega⟩
      · obtain ⟨c, cs, hcs, hc⟩ := ih (n / 10) (by omega) (by omega)
        exact ⟨c, cs ++ [Nat.digitChar (n % 10)], by rw [hcs, List.cons_append], hc⟩

/-! ## splitting digits off -/

/-- Where no character of a class follows, a run of the class is split off whole. -/
theorem span_append {α : Type} (p : α → Bool) {xs : List α} (rest : List α)
    (hxs : ∀ c ∈ xs, p c = true) (hrest : ∀ c ∈ rest.head?, p c = false) :
    (xs ++ rest).takeWhile p = xs ∧ (xs ++ rest).dropWhile p = rest := by
  rw [List.takeWhile_append_of_pos hxs, List.dropWhile_append_of_pos hxs]
  cases rest with
  | nil => simp
  | cons c rest =>
      have hc : p c = false := hrest c rfl
      simp [hc]

/-! ## integers -/

namespace Text

/-- Bringing a text to ASCII leaves digits and a minus as they are. -/
theorem map_foldChar {cs : List Char} (h : ∀ c ∈ cs, c.toNat < 0x7F) : cs.map foldChar = cs := by
  induction cs with
  | nil => rfl
  | cons c cs ih =>
      rw [List.forall_mem_cons] at h
      rw [List.map_cons, ih h.2, foldChar, if_pos h.1]

theorem dropWhile_eq_self {p : Char → Bool} {cs : List Char} (h : ∀ c ∈ cs, p c = false) :
    cs.dropWhile p = cs := by
  cases cs with
  | nil => rfl
  | cons c cs => simp [h c List.mem_cons_self]

/-- There is nothing to trim off a text without blanks. -/
theorem trimBy_eq_self {p : Char → Bool} {cs : List Char} (h : ∀ c ∈ cs, p c = false) :
    trimBy p cs = cs := by
  have hr : ∀ c ∈ cs.reverse, p c = false := fun c hc => h c (List.mem_reverse.1 hc)
  rw [trimBy, dropWhile_eq_self h, dropWhile_eq_self hr, List.reverse_reverse]

theorem underscoresSeparate_of_not_mem {cs : List Char} (h : '_' ∉ cs) :
    underscoresSeparate cs = true := by
  induction cs with
  | nil => rfl
  | cons c cs ih =>
      simp only [List.mem_cons, not_or] at h
      cases cs with
      | nil => simpa [underscoresSeparate] using Ne.symm h.1
      | cons d cs => simp [underscoresSeparate, Ne.symm h.1, ih h.2]

theorem digitsValue_toDigits (n : Nat) : digitsValue (Nat.toDigits 10 n) = n :=
  Nat.ofDigitChars_ten_toDigits

/-- The text of a sign and digits. -/
def signedDigits (negative : Bool) (n : Nat) : List Char :=
  (if negative then ['-'] else []) ++ Nat.toDigits 10 n

theorem bounds_of_mem_signedDigits {negative : Bool} {n : Nat} {c : Char}
    (h : c ∈ signedDigits negative n) : 0x2D ≤ c.toNat ∧ c.toNat ≤ 0x39 := by
  rcases List.mem_append.1 h with hc | hc
  · cases negative with
    | false => simp at hc
    | true =>
        obtain rfl := List.mem_singleton.1 hc
        decide
  · have := isDigit_bounds (isDigit_of_mem_toDigits hc)
    omega

theorem foldNumber_signedDigits (negative : Bool) (n : Nat) :
    foldNumber (String.ofList (signedDigits negative n)) = signedDigits negative n := by
  have ascii : ∀ c ∈ signedDigits negative n, c.toNat < 0x7F := fun c hc => by
    have := bounds_of_mem_signedDigits hc
    omega
  have solid : ∀ c ∈ signedDigits negative n, isAsciiBlank c = false := fun c hc => by
    have := bounds_of_mem_signedDigits hc
    simp only [isAsciiBlank, Bool.or_eq_false_iff, beq_eq_false_iff_ne, Bool.and_eq_false_iff,
      decide_eq_false_iff_not]
    exact ⟨by rintro rfl; simp at this, by omega⟩
  rw [foldNumber, String.toList_ofList, map_foldChar ascii, trimBy_eq_self solid]

theorem splitSign_signedDigits (negative : Bool) (n : Nat) :
    splitSign (signedDigits negative n) = (negative, Nat.toDigits 10 n) := by
  cases negative with
  | true => rfl
  | false =>
      simp only [signedDigits, Bool.false_eq_true, if_false, List.nil_append]
      cases hn : Nat.toDigits 10 n with
      | nil => exact absurd hn Nat.toDigits_ne_nil
      | cons c cs =>
          have hc : c.isDigit = true := isDigit_of_mem_toDigits (by rw [hn]; simp)
          have hminus : c ≠ '-' := ne_of_isDigit hc (by decide)
          have hplus : c ≠ '+' := ne_of_isDigit hc (by decide)
          unfold splitSign
          split <;> simp_all

/-- A sign and at most 4300 digits are read as the number they stand for. -/
theorem readInt_signedDigits (negative : Bool) {n : Nat}
    (h : (Nat.toDigits 10 n).length ≤ digitLimit) :
    readInt (String.ofList (signedDigits negative n)) = .ok (signed negative n) := by
  have hbody : ∀ c ∈ Nat.toDigits 10 n, (c.isDigit || c == '_') = true := fun c hc => by
    simp [isDigit_of_mem_toDigits hc]
  have hspan := span_append _ [] hbody (by simp)
  rw [List.append_nil] at hspan
  have hfilter : (Nat.toDigits 10 n).filter (· != '_') = Nat.toDigits 10 n :=
    List.filter_eq_self.2 fun c hc => by
      simpa using ne_of_isDigit (isDigit_of_mem_toDigits hc) (by decide)
  have hhead : (Nat.toDigits 10 n).head? ≠ some '_' := fun hc =>
    Nat.underscore_not_in_toDigits (List.mem_of_mem_head? hc)
  simp only [readInt, foldNumber_signedDigits, splitSign_signedDigits, hspan.1, hspan.2, hfilter,
    underscoresSeparate_of_not_mem Nat.underscore_not_in_toDigits, digitsValue_toDigits]
  rw [if_neg (by simpa using hhead), if_neg (by omega), if_neg (by simp)]

theorem toString_int_eq (i : Int) :
    toString i = String.ofList (signedDigits (decide (i < 0)) i.natAbs) := by
  cases i with
  | ofNat n =>
      have hn : decide (Int.ofNat n < 0) = false := by simp
      rw [hn]
      exact Nat.repr_eq_ofList_toDigits
  | negSucc n =>
      have hn : decide (Int.negSucc n < 0) = true := by simp [Int.negSucc_lt_zero]
      rw [hn]
      apply String.toList_inj.1
      show ("-" ++ (n + 1).repr).toList = _
      simp [signedDigits, Int.natAbs]

/-- An integer of at most 4300 digits is read back from its text. -/
theorem readInt_toString {i : Int} (h : (Nat.toDigits 10 i.natAbs).length ≤ digitLimit) :
    readInt (toString i) = .ok i := by
  rw [toString_int_eq, readInt_signedDigits _ h, signed]
  congr 1
  split
  · next hi => simp only [decide_eq_true_eq] at hi; omega
  · next hi => simp only [decide_eq_true_eq] at hi; omega

end Text

/-! ## parts of dotted addresses -/

namespace Inet

theorem valueIn_eq_ofDigitChars (radix : Nat) {digits : List Char}
    (h : ∀ c ∈ digits, c.isDigit = true) :
    valueIn radix digits = Nat.ofDigitChars radix digits 0 := by
  have start : ∀ n : Nat, digits.foldl (fun n c => radix * n + (Text.hexValue? c).getD 0) n =
      Nat.ofDigitChars radix digits n := by
    induction digits with
    | nil => intro n; simp
    | cons c digits ih =>
        rw [List.forall_mem_cons] at h
        intro n
        rw [List.foldl_cons, Nat.ofDigitChars_cons, ih h.2, Text.hexValue?, if_pos h.1]
        rfl
  exact start 0

/-- A decimal part is split off a text that ends there or goes on with a dot. -/
theorem splitPart_toDigits_append (n : Nat) {rest : List Char}
    (h : rest = [] ∨ ∃ more, rest = '.' :: more) :
    splitPart (Nat.toDigits 10 n ++ rest) = (n, rest) := by
  have hdot : ∀ c ∈ rest.head?, c = '.' := by
    rcases h with rfl | ⟨more, rfl⟩ <;> simp
  rcases Nat.eq_zero_or_pos n with rfl | hn
  · -- the digit zero alone opens an octal part, which is zero too
    have hzero : ∀ c ∈ ['0'], isOctal c = true := fun c hc => by
      rw [List.mem_singleton.1 hc]
      rfl
    have hoctal := span_append isOctal rest hzero fun c hc => by rw [hdot c hc]; decide
    rw [Nat.toDigits_zero]
    rcases h with rfl | ⟨more, rfl⟩
    · rfl
    · cases more with
      | nil => rfl
      | cons x more =>
          simp only [List.cons_append, List.nil_append] at hoctal ⊢
          rw [splitPart, if_neg (by simp), hoctal.1, hoctal.2]
          rfl
  · obtain ⟨c, cs, hcs, hc⟩ := toDigits_eq_cons_of_pos hn
    have hspan := span_append Char.isDigit rest
      (fun _ => isDigit_of_mem_toDigits (n := n)) fun c hc => by rw [hdot c hc]; decide
    have hvalue := valueIn_eq_ofDigitChars 10 fun _ => isDigit_of_mem_toDigits (n := n)
    rw [Nat.ofDigitChars_ten_toDigits] at hvalue
    have hdefault : splitPart (Nat.toDigits 10 n ++ rest) =
        (valueIn 10 ((Nat.toDigits 10 n ++ rest).takeWhile Char.isDigit),
          (Nat.toDigits 10 n ++ rest).dropWhile Char.isDigit) := by
      rw [hcs, List.cons_append]
      unfold splitPart
      split <;> simp_all
    rw [hdefault, hspan.1, hspan.2, hvalue]

end Inet

end ServerBrowser
