import ServerBrowser.Address.Master
import ServerBrowser.Packet.Reader
import ServerBrowser.Proofs.Decimal

/-!
# ServerBrowser.Proofs.Address

An address of a record has one text and one form on the wire, and both lead back to it:

* `parse?_dotted` — the canonical text of four bytes is read as those bytes;
* `toBytes_ofRecord` — the record of an address that was read off six bytes is those six bytes;
* `ofText?_text` — the text of such an address names it, so no two of them share a text.
-/

namespace ServerBrowser

/-! ## dotted addresses -/

namespace Inet

theorem toList_dotted (a b c d : UInt8) :
    (dotted a b c d).toList =
      Nat.toDigits 10 a.toNat ++ '.' :: (Nat.toDigits 10 b.toNat ++ '.' ::
        (Nat.toDigits 10 c.toNat ++ '.' :: Nat.toDigits 10 d.toNat)) := by
  have hdotted : dotted a b c d =
      a.toNat.repr ++ "." ++ b.toNat.repr ++ "." ++ c.toNat.repr ++ "." ++ d.toNat.repr := rfl
  simp [hdotted]

/-- What follows the digits of a number does not change that a digit comes first. -/
theorem head_toDigits_append (n : Nat) (rest : List Char) :
    ((Nat.toDigits 10 n ++ rest).head?.map Char.isDigit).getD false = true := by
  cases hn : Nat.toDigits 10 n with
  | nil => exact absurd hn Nat.toDigits_ne_nil
  | cons c cs =>
      have hc : c.isDigit = true := isDigit_of_mem_toDigits (by rw [hn]; simp)
      simp [hc]

/-- A part before a dot is one byte. -/
theorem parseParts_dot (left : Nat) (byte : UInt8) (rest : List Char) :
    parseParts (left + 2) (Nat.toDigits 10 byte.toNat ++ '.' :: rest) =
      (parseParts (left + 1) rest).map (byte :: ·) := by
  have hbyte := byte.toNat_lt
  rw [parseParts, if_pos (head_toDigits_append _ _),
    splitPart_toDigits_append byte.toNat (.inr ⟨rest, rfl⟩)]
  simp only [UInt8.ofNat_toNat]
  rw [if_neg (by omega)]

/-- The last of four parts is one byte too. -/
theorem parseParts_last (byte : UInt8) :
    parseParts 1 (Nat.toDigits 10 byte.toNat) = some [byte] := by
  have hbyte := byte.toNat_lt
  have hhead := head_toDigits_append byte.toNat []
  have hsplit := splitPart_toDigits_append byte.toNat (.inl rfl)
  rw [List.append_nil] at hhead hsplit
  have hfits : byte.toNat < Nat.pow 256 1 := by
    show byte.toNat < 256
    exact hbyte
  simp [parseParts, hhead, hsplit, hfits, lastBytes]

/-- The canonical text of four bytes is read as those bytes. -/
theorem parse?_dotted (a b c d : UInt8) : parse? (dotted a b c d) = some [a, b, c, d] := by
  rw [parse?, toList_dotted, parseParts_dot 2, parseParts_dot 1, parseParts_dot 0,
    parseParts_last]
  rfl

/-- A canonical text has digits and dots only. -/
theorem bounds_of_mem_dotted {a b c d : UInt8} {x : Char} (h : x ∈ (dotted a b c d).toList) :
    0x2E ≤ x.toNat ∧ x.toNat ≤ 0x39 := by
  have digit : ∀ n : Nat, x ∈ Nat.toDigits 10 n → 0x2E ≤ x.toNat ∧ x.toNat ≤ 0x39 := fun n hx => by
    have := isDigit_bounds (isDigit_of_mem_toDigits hx)
    omega
  rw [toList_dotted] at h
  simp only [List.mem_append, List.mem_cons] at h
  rcases h with h | rfl | h | rfl | h | rfl | h
  all_goals first | exact digit _ h | decide

end Inet

namespace ServerAddress

/-! ## records on the wire -/

/-- An address that a record of six bytes stands for. -/
def IsRecord (server : ServerAddress) : Prop :=
  ∃ a b c d high low, server = ofRecord a b c d high low

theorem isRecord_null : null.IsRecord :=
  ⟨0, 0, 0, 0, 0, 0, rfl⟩

/-- A port read off two bytes is written as those bytes. -/
theorem portBytes?_portOf (high low : UInt8) : portBytes? (portOf high low) = some [high, low] := by
  have hh := high.toNat_lt
  have hl := low.toNat_lt
  have hrange : 0 ≤ portOf high low ∧ portOf high low < 0x10000 := by
    simp only [portOf]
    omega
  have hnat : (portOf high low).toNat = 256 * high.toNat + low.toNat := by
    simp only [portOf]
    omega
  have hdiv : (256 * high.toNat + low.toNat) / 256 = high.toNat := by omega
  have hmod : (256 * high.toNat + low.toNat) % 256 = low.toNat := by omega
  rw [portBytes?, if_pos hrange, hnat, hdiv, hmod, UInt8.ofNat_toNat, UInt8.ofNat_toNat]

/-- The record of an address is the bytes of its dotted address and those of its port. -/
theorem toBytes_eq_ok {ip : String} {port : Int} {ipBytes portBytes : List UInt8}
    (hzero : '\x00' ∉ ip.toList) (hip : Inet.parse? ip = some ipBytes)
    (hport : portBytes? port = some portBytes) :
    (⟨ip, port⟩ : ServerAddress).toBytes = .ok (ipBytes ++ portBytes) := by
  have hcontains : ip.toList.contains '\x00' = false := by simpa using hzero
  simp only [toBytes, hcontains, hip, hport]
  rfl

/-- The record of an address that was read off six bytes is those six bytes. -/
theorem toBytes_ofRecord (a b c d high low : UInt8) :
    (ofRecord a b c d high low).toBytes = .ok [a, b, c, d, high, low] := by
  have hzero : '\x00' ∉ (Inet.dotted a b c d).toList := fun h =>
    absurd (Inet.bounds_of_mem_dotted h).1 (by decide)
  have hbytes := toBytes_eq_ok hzero (Inet.parse?_dotted a b c d) (portBytes?_portOf high low)
  rw [ofRecord, hbytes]
  rfl

/-! ## texts -/

theorem toList_text (server : ServerAddress) :
    server.text.toList = server.ip.toList ++ ':' :: (toString server.port).toList := by
  have htext : server.text = server.ip ++ ":" ++ toString server.port := rfl
  rw [htext, String.toList_append, String.toList_append, List.append_assoc]
  rfl

/-- The address that a text names: a dotted address and a port after a colon. -/
def ofText? (text : String) : Option ServerAddress :=
  match MasterAddress.splitText text with
  | .error _ => none
  | .ok (host, port) =>
    match Inet.parse? host, portBytes? port with
    | some [a, b, c, d], some [high, low] => some (ofRecord a b c d high low)
    | _, _ => none

theorem length_digits_port (high low : UInt8) :
    (Nat.toDigits 10 (portOf high low).natAbs).length ≤ Text.digitLimit := by
  have hh := high.toNat_lt
  have hl := low.toNat_lt
  have hfive : (Nat.toDigits 10 (portOf high low).natAbs).length ≤ 5 :=
    (Nat.length_toDigits_le_iff (by decide) (by decide)).2 (by
      simp only [portOf]
      omega)
  exact Nat.le_trans hfive (by decide)

theorem colon_not_mem_port (port : Int) : ':' ∉ (toString port).toList := by
  intro h
  rw [Text.toString_int_eq, String.toList_ofList] at h
  have := Text.bounds_of_mem_signedDigits h
  simp at this

/-- The text of an address with a host is divided into that host and the port. -/
theorem splitText_text {server : ServerAddress} (hip : server.ip ≠ "")
    (hport : (Nat.toDigits 10 server.port.natAbs).length ≤ Text.digitLimit) :
    MasterAddress.splitText server.text = .ok (server.ip, server.port) := by
  have hsplit : MasterAddress.splitLast? ':' server.text.toList =
      some (server.ip.toList, (toString server.port).toList) := by
    rw [toList_text, MasterAddress.splitLast?_append _ (colon_not_mem_port _)]
  have hhost : server.ip.toList.isEmpty = false := by
    simpa [List.isEmpty_eq_false_iff] using hip
  have hdigits : (toString server.port).toList.isEmpty = false := by
    rw [Text.toString_int_eq, String.toList_ofList]
    simp [Text.signedDigits]
  simp only [MasterAddress.splitText, hsplit, hhost, hdigits, String.ofList_toList,
    Text.readInt_toString hport]
  rfl

/-- The text of an address of a record names that address. -/
theorem ofText?_text {server : ServerAddress} (h : server.IsRecord) :
    ofText? server.text = some server := by
  obtain ⟨a, b, c, d, high, low, rfl⟩ := h
  have hip : (ofRecord a b c d high low).ip ≠ "" := by
    intro hempty
    have := congrArg String.toList hempty
    rw [ofRecord, Inet.toList_dotted] at this
    simp at this
  have hsplit := splitText_text hip (length_digits_port high low)
  simp only [ofText?, hsplit]
  simp only [ofRecord, Inet.parse?_dotted, portBytes?_portOf]

/-- The text of an address of a record has digits, dots and a colon only. -/
theorem bounds_of_mem_text {server : ServerAddress} (h : server.IsRecord) {x : Char}
    (hx : x ∈ server.text.toList) : 0x2D ≤ x.toNat ∧ x.toNat ≤ 0x3A := by
  obtain ⟨a, b, c, d, high, low, rfl⟩ := h
  rw [toList_text, List.mem_append, List.mem_cons] at hx
  rcases hx with hx | rfl | hx
  · have := Inet.bounds_of_mem_dotted hx
    omega
  · decide
  · rw [Text.toString_int_eq, String.toList_ofList] at hx
    have := Text.bounds_of_mem_signedDigits hx
    omega

end ServerAddress

end ServerBrowser
