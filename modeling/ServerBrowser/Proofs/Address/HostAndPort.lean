import ServerBrowser.Proofs.Address
import ServerBrowser.Proofs.CommandLine.Options
import ServerBrowser.Proofs.Text.Numeral

/-!
# ServerBrowser.Proofs.Address.HostAndPort

The host and the port of an address text.  The last colon divides the text, and behind it any
spelling of an integer may stand:

```
address = host ":" numeral        the host is not empty
```

* `splitText_eq_ok_iff` — a text has exactly the host and the port that it is made of;
* `splitText_display_iff` — a host and a port are found again in their text, as long as the port
  can be read at all;
* `splitText_normalForm` — whatever the text was, writing its host and its port down makes a text
  that has them again; an argument and a socket find the same host and port in it.
-/

namespace ServerBrowser

/-! ## no colon in a port -/

namespace Text

theorem Grouped.colon_not_mem {values : List Nat} {cs : List Char} (h : Grouped values cs) :
    ':' ∉ cs := by
  have mark : ∀ {c : Char} {value : Nat}, digitValue? c = some value → ':' ≠ c := by
    rintro c value digit rfl
    exact absurd digit (by simp [show digitValue? ':' = none from by decide])
  induction h with
  | last digit => simp [mark digit]
  | cons digit _ ih => simp [mark digit, ih]
  | underscore digit _ ih => simp [mark digit, ih]

theorem Sign.colon_not_mem {negative : Bool} {sign : List Char} (h : Sign negative sign) :
    ':' ∉ sign := by
  cases h <;> simp

/-- No spelling of an integer has a colon in it. -/
theorem Spells.colon_not_mem {text : String} {i : Int} (h : Spells text i) : ':' ∉ text.toList := by
  obtain ⟨numeral, rfl, -⟩ := h
  have blank : isBlank ':' = false := by decide
  simp only [Numeral.text, String.toList_ofList, List.mem_append, not_or]
  refine ⟨⟨⟨fun h => ?_, numeral.signs.colon_not_mem⟩, numeral.grouped.colon_not_mem⟩, fun h => ?_⟩
  · simp [numeral.leading_blank _ h] at blank
  · simp [numeral.trailing_blank _ h] at blank

/-- The empty text spells no integer. -/
theorem Spells.ne_nil {text : String} {i : Int} (h : Spells text i) : text.toList ≠ [] := by
  obtain ⟨numeral, rfl, -⟩ := h
  simp [Numeral.text, numeral.grouped.ne_nil.2]

end Text

namespace MasterAddress

/-! ## the parts of an address -/

/-- A text has a host and a port exactly if it is made of them: the port in any spelling. -/
theorem splitText_eq_ok_iff {address host : String} {port : Int} :
    splitText address = .ok (host, port) ↔
      host ≠ "" ∧ ∃ spelled, address = host ++ ":" ++ spelled ∧ Text.Spells spelled port := by
  constructor
  · intro h
    rw [splitText] at h
    split at h
    · cases h
    · next before after found =>
      split at h
      · cases h
      · next solid =>
        split at h
        · cases h
        · next read =>
          simp only [Bool.or_eq_true, List.isEmpty_iff, not_or] at solid
          cases h
          have whole := eq_of_splitLast? found
          refine ⟨by simpa using solid.1, String.ofList after, ?_, Text.readInt_eq_ok_iff.1 read⟩
          rw [← String.toList_inj, whole]
          simp
  · rintro ⟨solid, spelled, rfl, spells⟩
    have found : splitLast? ':' (host ++ ":" ++ spelled).toList =
        some (host.toList, spelled.toList) := by
      rw [String.toList_append, String.toList_append, List.append_assoc]
      exact splitLast?_append host.toList spells.colon_not_mem
    have read := Text.readInt_eq_ok_iff.2 spells
    simp only [splitText, found, List.isEmpty_eq_false_iff.2 spells.ne_nil,
      String.ofList_toList, read]
    simp [solid]

/-- A text without a host and a port of its own is refused for what it is worth. -/
theorem kind_of_splitText {address : String} {why : Fault} (h : splitText address = .error why) :
    why.kind = .value := by
  rw [splitText] at h
  split at h
  · cases h; rfl
  · split at h
    · cases h; rfl
    · split at h <;> cases h
      rfl

/-- A host and a port are found again in their text exactly if there is a host, and the port can be
read. -/
theorem splitText_display_iff {host : String} {port : Int} :
    splitText (pair host port).display = .ok (host, port) ↔
      host ≠ "" ∧ (Nat.toDigits 10 port.natAbs).length ≤ Text.digitLimit := by
  have written : (pair host port).display = host ++ ":" ++ toString port := rfl
  rw [splitText_eq_ok_iff, written]
  refine and_congr_right fun _ => ?_
  rw [← Text.readInt_toString_iff, Text.readInt_eq_ok_iff]
  constructor
  · rintro ⟨spelled, same, spells⟩
    obtain rfl : toString port = spelled := by simpa using same
    exact spells
  · exact fun spells => ⟨_, rfl, spells⟩

/-- An argument is an address exactly if it has a host, and a port that a server can have. -/
theorem ofArgument_eq_ok_iff {address : String} {master : String × Int} :
    ofArgument address = .ok master ↔ splitText address = .ok master ∧ IsPort master.2 := by
  rw [ofArgument]
  split
  · next found => simp [found]
  · next host port found =>
    split
    · next range => simp only [found, Except.ok.injEq]; grind [IsPort]
    · next range => simp only [found, Except.ok.injEq]; grind [IsPort]

/-- **A host and a port, written with a colon between them, are the normal form of an address.** -/
theorem splitText_normalForm :
    (∀ (host : String) (port : Int), splitText (pair host port).display = .ok (host, port) ↔
      host ≠ "" ∧ (Nat.toDigits 10 port.natAbs).length ≤ Text.digitLimit) ∧
    (∀ address : String, (∃ why, splitText address = .error why ∧ why.kind = .value) ∨
      ∃ host port, splitText address = .ok (host, port) ∧ host ≠ "" ∧
        splitText (pair host port).display = .ok (host, port)) ∧
    (∀ (address host : String) (port : Int), splitText address = .ok (host, port) ↔
      host ≠ "" ∧ ∃ spelled, address = host ++ ":" ++ spelled ∧ Text.Spells spelled port) ∧
    ∀ (address host : String) (port : Int),
      (ofArgument address = .ok (host, port) ↔
        splitText address = .ok (host, port) ∧ 0 < port ∧ port < 65536) ∧
      (pair host port).split = .ok (host, port) := by
  refine ⟨fun _ _ => splitText_display_iff, fun address => ?_, fun _ _ _ => splitText_eq_ok_iff,
    fun _ _ _ => ⟨ofArgument_eq_ok_iff, rfl⟩⟩
  cases parts : splitText address with
  | error why => exact .inl ⟨why, rfl, kind_of_splitText parts⟩
  | ok parted =>
      obtain ⟨host, port⟩ := parted
      obtain ⟨solid, spelled, -, spells⟩ := splitText_eq_ok_iff.1 parts
      have short := Text.length_toDigits_of_readInt (Text.readInt_eq_ok_iff.2 spells)
      exact .inr ⟨host, port, rfl, solid, splitText_display_iff.2 ⟨solid, short⟩⟩

example : (splitText "::1:\u2003-٢_7\t").toOption = some ("::1", -27) := by
  decide +kernel

end MasterAddress

end ServerBrowser
