import Mathlib.Data.List.Basic
import ServerBrowser.Proofs.Address.Inet
import ServerBrowser.Proofs.Response.Format

/-!
# ServerBrowser.Proofs.Address.Record

Addresses as text and as records of six bytes.  An address has many texts that name it and one
record; a record has one address, and that is written in the canonical text.

* `toBytes_eq_ok_iff` — which addresses have a record, and what it is;
* `toBytes_error` — what is wrong with the others, the text of the address coming first;
* `record_codec` — reading a record and writing it again leads back to the bytes, and writing and
  reading leads back to the address exactly if its text is canonical.
-/

namespace ServerBrowser

namespace Inet

/-- The canonical texts of addresses. -/
def IsDotted (text : String) : Prop :=
  ∃ a b c d : UInt8, text = dotted a b c d

/-- The texts that name an address: without a null character, and spelled as four bytes may be. -/
def Accepts (text : String) : Prop :=
  '\x00' ∉ text.toList ∧ ∃ bytes, bytes.length = 4 ∧ Spells bytes text.toList

end Inet

namespace ServerAddress

open Packet

/-! ## reading -/

/-- An address is read off the six bytes in front. -/
theorem readAddress_eq_ok_iff {bytes rest : List UInt8} {server : ServerAddress} :
    readAddress bytes = .ok (server, rest) ↔
      ∃ a b c d high low, bytes = a :: b :: c :: d :: high :: low :: rest ∧
        server = ofRecord a b c d high low := by
  constructor
  · intro h
    match bytes with
    | a :: b :: c :: d :: high :: low :: others =>
      rw [readAddress_cons] at h
      cases h
      exact ⟨a, b, c, d, high, low, rfl, rfl⟩
    | [] | [_] | [_, _] | [_, _, _] | [_, _, _, _] | [_, _, _, _, _] => cases h
  · rintro ⟨a, b, c, d, high, low, rfl, rfl⟩
    exact readAddress_cons a b c d high low rest

/-! ## writing -/

/-- A port is written as the two bytes that stand for it. -/
theorem portBytes?_eq_some_iff {port : Int} {bytes : List UInt8} :
    portBytes? port = some bytes ↔ ∃ high low, bytes = [high, low] ∧ port = portOf high low := by
  constructor
  · intro h
    have range : 0 ≤ port ∧ port ≤ 65535 := by
      rw [portBytes?] at h
      split at h
      · omega
      · cases h
    obtain ⟨high, low, rfl⟩ := exists_portOf range
    rw [portBytes?_portOf] at h
    exact ⟨high, low, (Option.some.inj h).symm, rfl⟩
  · rintro ⟨high, low, rfl, rfl⟩
    exact portBytes?_portOf high low

/-- A port is written exactly if it fits into two bytes. -/
theorem portBytes?_eq_none_iff {port : Int} :
    portBytes? port = none ↔ ¬ (0 ≤ port ∧ port ≤ 65535) := by
  rw [portBytes?]
  split <;> simp <;> omega

/-- The record of an address: the bytes that its text spells, and the two that its port stands
for. -/
theorem toBytes_eq_ok_iff {server : ServerAddress} {bytes : List UInt8} :
    server.toBytes = .ok bytes ↔ ∃ a b c d high low, bytes = [a, b, c, d, high, low] ∧
      '\x00' ∉ server.ip.toList ∧ Inet.Spells [a, b, c, d] server.ip.toList ∧
        server.port = portOf high low := by
  constructor
  · intro h
    rw [toBytes] at h
    split at h
    · cases h
    · next solid =>
      split at h
      · cases h
      · next ip parsed =>
        split at h
        · cases h
        · next port packed =>
          obtain ⟨length, spells⟩ := Inet.parse?_eq_some_iff.1 parsed
          obtain ⟨high, low, rfl, same⟩ := portBytes?_eq_some_iff.1 packed
          obtain ⟨a, b, c, d, rfl⟩ := List.length_eq_four.1 length
          exact ⟨a, b, c, d, high, low, (Except.ok.inj h).symm, by simpa using solid, spells, same⟩
  · rintro ⟨a, b, c, d, high, low, rfl, solid, spells, port⟩
    have parsed := Inet.parse?_eq_some_iff.2 ⟨rfl, spells⟩
    have packed := portBytes?_eq_some_iff.2 ⟨high, low, rfl, port⟩
    exact toBytes_eq_ok solid parsed packed

/-- What is wrong with an address that has no record: its text, whatever the port is; and only then
its port. -/
theorem toBytes_error (server : ServerAddress) :
    (¬ Inet.Accepts server.ip ↔
      server.toBytes = .error .embeddedNull ∨ server.toBytes = .error .badDotted) ∧
    (server.toBytes = .error .unpackablePort ↔
      Inet.Accepts server.ip ∧ ¬ (0 ≤ server.port ∧ server.port ≤ 65535)) := by
  rw [toBytes]
  split
  · next null =>
    have refused : ¬ Inet.Accepts server.ip := fun accepts => accepts.1 (by simpa using null)
    simp [refused]
  · next solid =>
    split
    · next unparsed =>
      have refused : ¬ Inet.Accepts server.ip := by
        rintro ⟨-, bytes, spelled⟩
        rw [Inet.parse?_eq_some_iff.2 spelled] at unparsed
        cases unparsed
      simp [refused]
    · next ip parsed =>
      have accepted : Inet.Accepts server.ip :=
        ⟨by simpa using solid, ip, Inet.parse?_eq_some_iff.1 parsed⟩
      split
      · next unpacked => simp [accepted, portBytes?_eq_none_iff.1 unpacked]
      · next port packed =>
        have range : ¬ portBytes? server.port = none := by simp [packed]
        rw [portBytes?_eq_none_iff] at range
        simp [accepted, range]

/-! ## there and back -/

/-- The address of a record is null exactly if the record is all zeros. -/
theorem isNull_ofRecord_iff {a b c d high low : UInt8} :
    (ofRecord a b c d high low).isNull = true ↔
      [a, b, c, d, high, low] = [0, 0, 0, 0, 0, 0] := by
  rw [isNull_iff]
  constructor
  · exact ofRecord_eq_null
  · intro zeros
    simp only [List.cons.injEq, and_true] at zeros
    obtain ⟨rfl, rfl, rfl, rfl, rfl, rfl⟩ := zeros
    rfl

/-- The text of a record's address names the record. -/
theorem eq_of_text_ofRecord {a b c d high low a' b' c' d' high' low' : UInt8}
    (h : (ofRecord a b c d high low).text = (ofRecord a' b' c' d' high' low').text) :
    [a, b, c, d, high, low] = [a', b', c', d', high', low'] := by
  have first := ofText?_text ⟨a, b, c, d, high, low, rfl⟩
  rw [h, ofText?_text ⟨a', b', c', d', high', low', rfl⟩] at first
  have bytes := toBytes_ofRecord a b c d high low
  rw [← Option.some.inj first, toBytes_ofRecord] at bytes
  exact (Except.ok.inj bytes).symm

/-- An address is found again in its record exactly if its text is canonical. -/
theorem ofRecord_eq_iff {server : ServerAddress} {a b c d high low : UInt8}
    (h : server.toBytes = .ok [a, b, c, d, high, low]) :
    ofRecord a b c d high low = server ↔ Inet.IsDotted server.ip := by
  constructor
  · rintro rfl
    exact ⟨a, b, c, d, rfl⟩
  · rintro ⟨a', b', c', d', ip⟩
    obtain ⟨_, _, _, _, _, _, same, -, spells, port⟩ := toBytes_eq_ok_iff.1 h
    cases same
    have parsed := Inet.parse?_eq_some_iff.2 ⟨rfl, spells⟩
    rw [ip, Inet.parse?_dotted] at parsed
    cases parsed
    rw [ofRecord, ← ip, ← port]

/-- **Records and addresses.**  Every record is that of the address that is read off it, and the
texts of these addresses tell the records apart.  An address that has a record is found again in it
exactly if its text is canonical; one that has none has a text that names no address, or else a port
that does not fit. -/
theorem record_codec :
    (∀ bytes : List UInt8, bytes.length = 6 → ∃ server, readAddress bytes = .ok (server, []) ∧
      server.toBytes = .ok bytes ∧ Inet.IsDotted server.ip ∧ 0 ≤ server.port ∧
      server.port ≤ 65535 ∧ (server.isNull = true ↔ bytes = [0, 0, 0, 0, 0, 0])) ∧
    (∀ bytes other server another, readAddress bytes = .ok (server, []) →
      readAddress other = .ok (another, []) → server.text = another.text → bytes = other) ∧
    (∀ server bytes, toBytes server = .ok bytes → ∃ again, readAddress bytes = .ok (again, []) ∧
      again.toBytes = .ok bytes ∧ (again = server ↔ Inet.IsDotted server.ip)) ∧
    ∀ server : ServerAddress,
      (¬ Inet.Accepts server.ip ↔
        server.toBytes = .error .embeddedNull ∨ server.toBytes = .error .badDotted) ∧
      (server.toBytes = .error .unpackablePort ↔
        Inet.Accepts server.ip ∧ ¬ (0 ≤ server.port ∧ server.port ≤ 65535)) := by
  refine ⟨fun bytes length => ?_, fun bytes other server another first second text => ?_,
    fun server bytes written => ?_, toBytes_error⟩
  · match bytes, length with
    | [a, b, c, d, high, low], _ =>
      have canonical := isRecord_iff_isCanonical.1 ⟨a, b, c, d, high, low, rfl⟩
      exact ⟨_, readAddress_cons a b c d high low [], toBytes_ofRecord a b c d high low,
        canonical.1, canonical.2.1, canonical.2.2, isNull_ofRecord_iff⟩
  · obtain ⟨a, b, c, d, high, low, rfl, rfl⟩ := readAddress_eq_ok_iff.1 first
    obtain ⟨a', b', c', d', high', low', rfl, rfl⟩ := readAddress_eq_ok_iff.1 second
    exact eq_of_text_ofRecord text
  · obtain ⟨a, b, c, d, high, low, rfl, -⟩ := toBytes_eq_ok_iff.1 written
    exact ⟨_, readAddress_cons a b c d high low [], toBytes_ofRecord a b c d high low,
      ofRecord_eq_iff written⟩

/-- An address in two parts, the first hexadecimal, with a blank behind it. -/
theorem record_codec_twoParts :
    toBytes ⟨"0x7f.1 home", 80⟩ = .ok [127, 0, 0, 1, 0, 80] ∧
      ∃ again, readAddress [127, 0, 0, 1, 0, 80] = .ok (again, []) ∧
        again.toBytes = .ok [127, 0, 0, 1, 0, 80] ∧
        (again = ⟨"0x7f.1 home", 80⟩ ↔ Inet.IsDotted "0x7f.1 home") := by
  have written : toBytes ⟨"0x7f.1 home", 80⟩ = .ok [127, 0, 0, 1, 0, 80] := by
    decide +kernel
  exact ⟨written, record_codec.2.2.1 _ _ written⟩

end ServerAddress

end ServerBrowser
