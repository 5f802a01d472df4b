import Mathlib.Data.List.TakeWhile
import ServerBrowser.Proofs.Address

/-!
# ServerBrowser.Proofs.Address.Inet

The texts that name an IPv4 address.

```
address = {part "."} part        end of the text, or a blank and anything
part    = decimal number | "0" octal number | "0x" hexadecimal number
```

Each part before a dot is one byte; the last one is all bytes that are left, the highest first.
So an address has many texts, of which `dotted` writes one.

* `splitPart_append`, `exists_part` — a part is split off exactly as it is written;
* `parse?_eq_some_iff` — the bytes of a text are read exactly as the grammar says.
-/

namespace ServerBrowser.Inet

open Text

/-! ## the grammar -/

/-- A number as it may be written: decimal, octal after a zero, or hexadecimal after `0x`. -/
inductive Part : Nat → List Char → Prop
  | decimal {c : Char} {cs : List Char} (nonzero : c ≠ '0')
    (digits : ∀ d ∈ c :: cs, d.isDigit = true) : Part (valueIn 10 (c :: cs)) (c :: cs)
  | octal {cs : List Char} (digits : ∀ d ∈ cs, isOctal d = true) :
    Part (valueIn 8 cs) ('0' :: cs)
  | hexadecimal {x c : Char} {cs : List Char} (mark : x = 'x' ∨ x = 'X')
    (digits : ∀ d ∈ c :: cs, isHex d = true) : Part (valueIn 16 (c :: cs)) ('0' :: x :: c :: cs)

/-- The number that bytes stand for, the highest first. -/
def number (bytes : List UInt8) : Nat :=
  bytes.foldl (fun n byte => 256 * n + byte.toNat) 0

/-- Whether a text ends here: it does before a blank. -/
def Ends (rest : List Char) : Prop :=
  ∀ c ∈ rest.head?, isAsciiBlank c = true

/-- The texts of bytes: parts of one byte each before dots, and a last part of one byte or more. -/
inductive Spells : List UInt8 → List Char → Prop
  | last {bytes : List UInt8} {part rest : List Char} (solid : bytes ≠ [])
    (written : Part (number bytes) part) (ends : Ends rest) : Spells bytes (part ++ rest)
  | dot {byte : UInt8} {bytes : List UInt8} {part rest : List Char}
    (written : Part byte.toNat part) (more : Spells bytes rest) :
    Spells (byte :: bytes) (part ++ '.' :: rest)

/-! ## one part -/

/-- Whether no digit of any base follows, nor what makes a zero hexadecimal. -/
def Stops (rest : List Char) : Prop :=
  ∀ c ∈ rest.head?, isHex c = false ∧ c ≠ 'x' ∧ c ≠ 'X'

theorem isHex_of_isDigit {c : Char} (h : c.isDigit = true) : isHex c = true := by
  simp [isHex, hexValue?, h]

theorem isDigit_of_isOctal {c : Char} (h : isOctal c = true) : c.isDigit = true := by
  simp only [isOctal, Bool.and_eq_true] at h
  exact h.1

theorem Stops.isDigit {rest : List Char} (h : Stops rest) : ∀ c ∈ rest.head?, c.isDigit = false :=
  fun c hc => by
    cases digit : c.isDigit with
    | false => rfl
    | true =>
        have hex := (h c hc).1
        rw [isHex_of_isDigit digit] at hex
        cases hex

theorem Stops.isOctal {rest : List Char} (h : Stops rest) : ∀ c ∈ rest.head?, isOctal c = false :=
  fun c hc => by rw [Inet.isOctal, h.isDigit c hc, Bool.false_and]

/-- What starts with a zero is octal, unless it is hexadecimal. -/
theorem splitPart_zero {tail : List Char}
    (h : ∀ x c rest, tail = x :: c :: rest → ¬ ((x = 'x' ∨ x = 'X') ∧ isHex c = true)) :
    splitPart ('0' :: tail) = (valueIn 8 (tail.takeWhile isOctal), tail.dropWhile isOctal) := by
  have zero : ('0' :: tail).takeWhile isOctal = '0' :: tail.takeWhile isOctal ∧
      ('0' :: tail).dropWhile isOctal = tail.dropWhile isOctal := ⟨rfl, rfl⟩
  have value : ∀ digits, valueIn 8 ('0' :: digits) = valueIn 8 digits := fun _ => rfl
  match tail with
  | x :: c :: rest => rw [splitPart, if_neg (h x c rest rfl), zero.1, zero.2, value]
  | [x] => rw [splitPart, zero.1, zero.2, value]; simp
  | [] => rfl

/-- What starts with a zero, the mark and a digit is hexadecimal. -/
theorem splitPart_mark {x c : Char} {rest : List Char} (mark : x = 'x' ∨ x = 'X')
    (digit : isHex c = true) : splitPart ('0' :: x :: c :: rest) =
      (valueIn 16 ((c :: rest).takeWhile isHex), (c :: rest).dropWhile isHex) := by
  rw [splitPart, if_pos ⟨mark, digit⟩]

/-- What does not start with a zero is decimal. -/
theorem splitPart_nonzero {c : Char} {cs : List Char} (h : c ≠ '0') :
    splitPart (c :: cs) =
      (valueIn 10 ((c :: cs).takeWhile Char.isDigit), (c :: cs).dropWhile Char.isDigit) := by
  unfold splitPart
  split <;> simp_all

/-- A part is split off as it is written. -/
theorem splitPart_append {value : Nat} {part rest : List Char} (h : Part value part)
    (stops : Stops rest) : splitPart (part ++ rest) = (value, rest) := by
  cases h with
  | @decimal c cs nonzero digits =>
      have span := span_append Char.isDigit rest digits stops.isDigit
      rw [List.cons_append, splitPart_nonzero nonzero, ← List.cons_append, span.1, span.2]
  | @octal cs digits =>
      have span := span_append isOctal rest digits stops.isOctal
      rw [List.cons_append, splitPart_zero, span.1, span.2]
      rintro x c more same ⟨mark, -⟩
      cases cs with
      | nil =>
          have := (stops x (by simp [show rest = x :: c :: more from same])).2
          simp_all
      | cons d cs =>
          obtain rfl : d = x := (List.cons.inj same).1
          have := isDigit_of_isOctal (digits d List.mem_cons_self)
          rcases mark with rfl | rfl <;> cases this
  | @hexadecimal x c cs mark digits =>
      have span := span_append isHex rest digits fun d hd => (stops d hd).1
      rw [List.cons_append] at span
      rw [List.cons_append, List.cons_append, List.cons_append,
        splitPart_mark mark (digits c List.mem_cons_self), span.1, span.2]

/-- What is split off is a part. -/
theorem exists_part {cs : List Char} (h : (cs.head?.map Char.isDigit).getD false = true) :
    ∃ part, cs = part ++ (splitPart cs).2 ∧ Part (splitPart cs).1 part := by
  match cs with
  | [] => simp at h
  | c :: cs =>
    by_cases zero : c = '0'
    · subst zero
      by_cases hex : ∃ x d rest, cs = x :: d :: rest ∧ (x = 'x' ∨ x = 'X') ∧ isHex d = true
      · obtain ⟨x, d, rest, rfl, mark, digit⟩ := hex
        have first : (d :: rest).takeWhile isHex = d :: rest.takeWhile isHex := by simp [digit]
        have all : ∀ e ∈ d :: rest.takeWhile isHex, isHex e = true := fun e he =>
          List.mem_takeWhile_imp (first ▸ he)
        rw [splitPart_mark mark digit, first]
        refine ⟨'0' :: x :: d :: rest.takeWhile isHex, ?_, .hexadecimal mark all⟩
        rw [List.cons_append, List.cons_append, ← first, List.takeWhile_append_dropWhile]
      · rw [splitPart_zero fun x d rest same marked => hex ⟨x, d, rest, same, marked⟩]
        refine ⟨'0' :: cs.takeWhile isOctal, ?_, .octal fun _ => List.mem_takeWhile_imp⟩
        rw [List.cons_append, List.takeWhile_append_dropWhile]
    · have first : (c :: cs).takeWhile Char.isDigit = c :: cs.takeWhile Char.isDigit := by
        have digit : c.isDigit = true := by simpa using h
        simp [digit]
      have all : ∀ e ∈ c :: cs.takeWhile Char.isDigit, e.isDigit = true := fun e he =>
        List.mem_takeWhile_imp (first ▸ he)
      rw [splitPart_nonzero zero, first]
      refine ⟨c :: cs.takeWhile Char.isDigit, ?_, .decimal zero all⟩
      rw [← first, List.takeWhile_append_dropWhile]

theorem Part.isDigit_head {value : Nat} {part : List Char} (h : Part value part)
    (rest : List Char) : ((part ++ rest).head?.map Char.isDigit).getD false = true := by
  cases h with
  | decimal nonzero digits => simp [digits]
  | octal | hexadecimal => rfl

/-! ## the bytes of the last part -/

theorem number_cons (byte : UInt8) (bytes : List UInt8) :
    number (byte :: bytes) = byte.toNat * Nat.pow 256 bytes.length + number bytes := by
  have start : ∀ n : Nat, bytes.foldl (fun n byte => 256 * n + byte.toNat) n =
      n * Nat.pow 256 bytes.length + number bytes := by
    induction bytes with
    | nil => intro n; simp [number]
    | cons b bytes ih =>
        intro n
        have next : Nat.pow 256 (b :: bytes).length = Nat.pow 256 bytes.length * 256 := rfl
        rw [number, List.foldl_cons, List.foldl_cons, ih, ih, next]
        grind
  rw [number, List.foldl_cons, start, Nat.mul_zero, Nat.zero_add]

theorem number_lt (bytes : List UInt8) : number bytes < Nat.pow 256 bytes.length := by
  induction bytes with
  | nil => decide
  | cons byte bytes ih =>
      have small := byte.toNat_lt
      have next : Nat.pow 256 (byte :: bytes).length = 256 * Nat.pow 256 bytes.length :=
        Nat.mul_comm _ _
      have room : (byte.toNat + 1) * Nat.pow 256 bytes.length ≤ 256 * Nat.pow 256 bytes.length :=
        Nat.mul_le_mul_right _ small
      rw [number_cons, next]
      rw [Nat.add_mul, Nat.one_mul] at room
      omega

/-- As many bytes as are left stand for a number, as far as they can. -/
theorem number_lastBytes (count n : Nat) : number (lastBytes count n) = n % Nat.pow 256 count := by
  induction count with
  | zero => exact (Nat.mod_one n).symm
  | succ count ih =>
      have next : Nat.pow 256 (count + 1) = Nat.pow 256 count * 256 := rfl
      have small : n / Nat.pow 256 count % 256 < 256 := Nat.mod_lt _ (by decide)
      rw [lastBytes, number_cons, ih, length_lastBytes, UInt8.toNat_ofNat_of_lt' small, next,
        Nat.mod_mul, Nat.mul_comm, Nat.add_comm]

/-- No two rows of bytes of one length stand for the same number. -/
theorem eq_of_number_eq {bytes other : List UInt8} (length : bytes.length = other.length)
    (h : number bytes = number other) : bytes = other := by
  induction bytes generalizing other with
  | nil => exact (List.length_eq_zero_iff.1 length.symm).symm
  | cons byte bytes ih =>
      match other, length with
      | b :: other, length =>
        have same : bytes.length = other.length := Nat.succ.inj length
        have below := number_lt bytes
        have below' := number_lt other
        rw [number_cons, number_cons, ← same] at h
        rw [← same] at below'
        have quotient : ∀ {k r : Nat}, r < Nat.pow 256 bytes.length →
            (k * Nat.pow 256 bytes.length + r) / Nat.pow 256 bytes.length = k := fun small => by
          rw [Nat.add_comm, Nat.add_mul_div_right _ _ (Nat.zero_lt_of_lt small),
            Nat.div_eq_of_lt small, Nat.zero_add]
        have first : byte.toNat = b.toNat := by
          rw [← quotient (k := byte.toNat) below, h, quotient below']
        rw [first] at h
        rw [UInt8.toNat_inj.1 first, ih same (by omega)]

theorem lastBytes_number (bytes : List UInt8) : lastBytes bytes.length (number bytes) = bytes :=
  eq_of_number_eq (length_lastBytes _ _) (by
    rw [number_lastBytes, Nat.mod_eq_of_lt (number_lt bytes)])

/-! ## whole texts -/

theorem le_of_isHex {c : Char} (h : isHex c = true) : 0x30 ≤ c.toNat := by
  have letter : ∀ d : Char, d ≤ c → d.toNat ≤ c.toNat := fun _ le => le
  rw [isHex, hexValue?] at h
  split at h
  · next digit => exact (isDigit_bounds digit).1
  · split at h
    · next lower =>
      exact Nat.le_trans (by decide) (letter 'a' lower.1)
    · split at h
      · next upper => exact Nat.le_trans (by decide) (letter 'A' upper.1)
      · cases h

theorem Ends.stops {rest : List Char} (h : Ends rest) : Stops rest := by
  have low : ∀ c : Char, isAsciiBlank c = true → c.toNat ≤ 0x20 := by
    intro c blank
    simp only [isAsciiBlank, Bool.or_eq_true, beq_iff_eq, Bool.and_eq_true,
      decide_eq_true_eq] at blank
    rcases blank with rfl | range
    · decide
    · omega
  intro c hc
  have small := low c (h c hc)
  refine ⟨?_, by rintro rfl; exact absurd small (by decide),
    by rintro rfl; exact absurd small (by decide)⟩
  rw [← Bool.not_eq_true]
  intro hex
  have := le_of_isHex hex
  omega

theorem stops_dot (rest : List Char) : Stops ('.' :: rest) := by
  simp [Stops]
  decide

/-- A part before a dot is one byte, and others follow. -/
theorem parseParts_append_dot {left : Nat} {byte : UInt8} {part rest : List Char}
    (written : Part byte.toNat part) : parseParts (left + 2) (part ++ '.' :: rest) =
      (parseParts (left + 1) rest).map (byte :: ·) := by
  have small := byte.toNat_lt
  rw [parseParts, if_pos (written.isDigit_head _), splitPart_append written (stops_dot rest)]
  simp only [UInt8.ofNat_toNat]
  rw [if_neg (by omega)]

/-- A part at the end is all bytes that are left. -/
theorem parseParts_append_end {bytes : List UInt8} {part rest : List Char} (solid : bytes ≠ [])
    (written : Part (number bytes) part) (ends : Ends rest) :
    parseParts bytes.length (part ++ rest) = some bytes := by
  obtain ⟨left, length⟩ := Nat.exists_eq_succ_of_ne_zero (mt List.length_eq_zero_iff.1 solid)
  have whole := lastBytes_number bytes
  have small := number_lt bytes
  have blank : (rest.head?.map isAsciiBlank).getD true = true := by
    cases rest with
    | nil => rfl
    | cons c rest => exact ends c rfl
  rw [length] at whole small ⊢
  rw [parseParts, if_pos (written.isDigit_head _), splitPart_append written ends.stops]
  cases rest with
  | nil => simp [-Nat.pow_eq, small, whole]
  | cons c rest =>
    have dot : c ≠ '.' := by
      rintro rfl
      exact absurd (ends '.' rfl) (by decide)
    simp only [List.head?_cons, Option.map_some, Option.getD_some] at blank
    simp [-Nat.pow_eq, dot, blank, small, whole]

theorem Spells.ne_nil {bytes : List UInt8} {text : List Char} (h : Spells bytes text) :
    bytes ≠ [] := by
  cases h with
  | last solid => exact solid
  | dot => simp

/-- What is read of a text is what the text spells. -/
theorem spells_of_parseParts {left : Nat} {text : List Char} {bytes : List UInt8}
    (h : parseParts left text = some bytes) : Spells bytes text := by
  induction left generalizing text bytes with
  | zero => simp [parseParts] at h
  | succ left ih =>
      rw [parseParts] at h
      split at h
      · next digit =>
        obtain ⟨part, whole, written⟩ := exists_part digit
        split at h
        next value rest cut =>
        rw [cut] at whole written
        subst whole
        split at h
        · next more =>
          split at h
          · cases h
          · next byte =>
            obtain ⟨bytes, later, rfl⟩ := Option.map_eq_some_iff.1 h
            have small : (UInt8.ofNat value).toNat = value :=
              UInt8.toNat_ofNat_of_lt' (show value < 256 by omega)
            exact .dot (by rwa [small]) (ih later)
        · next plain =>
          split at h
          · next ends =>
            simp only [Bool.and_eq_true, decide_eq_true_eq] at ends
            obtain rfl := Option.some.inj h
            have same : number (lastBytes (left + 1) value) = value := by
              rw [number_lastBytes, Nat.mod_eq_of_lt ends.2]
            refine .last (by simp [lastBytes]) (by rwa [same]) fun c hc => ?_
            cases rest with
            | nil => cases hc
            | cons d rest =>
                obtain rfl : d = c := Option.some.inj hc
                exact ends.1
          · cases h
      · cases h

/-- The bytes of parts are read exactly from their texts. -/
theorem parseParts_eq_some_iff {left : Nat} {text : List Char} {bytes : List UInt8} :
    parseParts left text = some bytes ↔ bytes.length = left ∧ Spells bytes text := by
  constructor
  · exact fun h => ⟨length_of_parseParts h, spells_of_parseParts h⟩
  · rintro ⟨rfl, spells⟩
    induction spells with
    | last solid written ends => exact parseParts_append_end solid written ends
    | @dot byte bytes part rest written more ih =>
        obtain ⟨left, length⟩ :=
          Nat.exists_eq_succ_of_ne_zero (mt List.length_eq_zero_iff.1 more.ne_nil)
        rw [List.length_cons, length, parseParts_append_dot written, ← Nat.succ_eq_add_one,
          ← length, ih, Option.map_some]

/-- **The four bytes of an address text are read exactly as the grammar says.** -/
theorem parse?_eq_some_iff {text : String} {bytes : List UInt8} :
    parse? text = some bytes ↔ bytes.length = 4 ∧ Spells bytes text.toList :=
  parseParts_eq_some_iff

end ServerBrowser.Inet
