import Mathlib.Data.List.Basic
import ServerBrowser.Proofs.Address

/-!
# ServerBrowser.Proofs.Packet.Reader

What reading takes off a packet.  A field that fits is decoded from the very bytes that come next,
and the reader moves on by its size (`Reader.read_of_le`); a field that does not fit leaves the
reader where it is (`Reader.read_of_lt`).  So the fields that were read, written again, are the
bytes that were taken (`Reader.readAll_consumes`).

A reader does with each field what taking the field off the bytes that are left does
(`Reader.read_eq`).
-/

namespace ServerBrowser.Packet

/-! ## fields and their bytes -/

/-- What the bytes of a field say. -/
def Field.decode : Field → List UInt8 → Option Field.Value
  | .ip, [a, b, c, d] => some (.ip (Inet.dotted a b c d))
  | .port, [high, low] => some (.port (ServerAddress.portOf high low))
  | _, _ => none

/-- The bytes that a field is written with. -/
def Field.Value.encode : Field.Value → Option (List UInt8)
  | .ip text => Inet.parse? text
  | .port number => ServerAddress.portBytes? number

/-- The bytes of fields, one after the other. -/
def encodeAll : List Field.Value → Option (List UInt8)
  | [] => some []
  | value :: values => do return (← value.encode) ++ (← encodeAll values)

variable {field : Field} {bytes : List UInt8} {value : Field.Value}

/-- As many bytes as a field takes are decoded. -/
theorem Field.exists_decode (h : bytes.length = field.size) :
    ∃ value, field.decode bytes = some value := by
  cases field with
  | ip =>
      obtain ⟨a, b, c, d, rfl⟩ := List.length_eq_four.1 h
      exact ⟨_, rfl⟩
  | port =>
      obtain ⟨high, low, rfl⟩ := List.length_eq_two.1 h
      exact ⟨_, rfl⟩

/-- A field that is decoded is written again with the same bytes. -/
theorem Field.encode_of_decode (h : field.decode bytes = some value) :
    value.encode = some bytes := by
  unfold Field.decode at h
  split at h <;> simp at h
  · subst h
    exact Inet.parse?_dotted ..
  · subst h
    exact ServerAddress.portBytes?_portOf ..

/-- A field is taken off the bytes in front that it is decoded from. -/
theorem readField_append (h : field.decode bytes = some value) (rest : List UInt8) :
    readField field (bytes ++ rest) = .ok (value, rest) := by
  unfold Field.decode at h
  split at h <;> simp at h <;> subst h <;> rfl

/-- A field that does not fit is not taken. -/
theorem readField_of_lt (h : bytes.length < field.size) :
    readField field bytes = .error (tooShort field.size bytes) := by
  cases field with
  | ip =>
      match bytes, h with
      | [], _ | [_], _ | [_, _], _ | [_, _, _], _ => rfl
  | port =>
      match bytes, h with
      | [], _ | [_], _ => rfl

namespace Reader

variable {r r' : Reader} {fields more : List Field} {answers : List (Except Fault Field.Value)}

/-- A reader that moves on leaves the bytes that it moves over. -/
@[simp] theorem rest_advance (r : Reader) (size : Nat) :
    Reader.rest { r with taken := r.taken + size } = r.rest.drop size := by
  simp [rest]

/-- The bytes that are left, where the reader stands within its packet. -/
theorem length_rest (h : r.taken ≤ r.packet.length) : (r.rest.length : Int) = r.remaining := by
  simp [rest, remaining]
  omega

/-! ## one read -/

/-- **A field that fits** is decoded from the bytes that come next, and they are taken. -/
theorem read_of_le (h : field.size ≤ r.remaining) :
    ∃ value, field.decode (r.rest.take field.size) = some value ∧
      r.read field = (.ok value, { r with taken := r.taken + field.size }) := by
  have hlength : (r.rest.take field.size).length = field.size := by
    simp [rest, remaining] at *
    omega
  obtain ⟨value, hvalue⟩ := Field.exists_decode hlength
  have hread : readField field (r.rest.take field.size) = .ok (value, []) := by
    simpa using readField_append hvalue []
  refine ⟨value, hvalue, ?_⟩
  simp [read, take, Int.not_lt.2 h, Except.bind, Except.map, hread]

/-- **A field that does not fit** is refused, and nothing changes. -/
theorem read_of_lt (h : r.remaining < field.size) :
    r.read field = (.error (.truncated field.size r.remaining), r) := by
  simp [read, take, h, Except.bind]

/-- A reader takes a field as it is taken off the bytes that are left. -/
theorem read_eq (h : r.taken ≤ r.packet.length) (field : Field) :
    ((r.read field).1, (r.read field).2.rest) =
      match readField field r.rest with
      | .ok (value, rest) => (.ok value, rest)
      | .error fault => (.error fault, r.rest) := by
  have hlength := length_rest h
  by_cases hfits : field.size ≤ r.remaining
  · obtain ⟨value, hvalue, hread⟩ := read_of_le hfits
    have hsplit := readField_append hvalue (r.rest.drop field.size)
    rw [List.take_append_drop] at hsplit
    simp [hread, hsplit]
  · have hlt : r.rest.length < field.size := by omega
    rw [read_of_lt (by omega), readField_of_lt hlt, tooShort, hlength]

/-! ## rows of reads -/

/-- The fields among the answers. -/
def valuesOf (answers : List (Except Fault Field.Value)) : List Field.Value :=
  answers.filterMap Except.toOption

@[simp] theorem valuesOf_ok (value : Field.Value) :
    valuesOf (.ok value :: answers) = value :: valuesOf answers := rfl

@[simp] theorem valuesOf_error (fault : Fault) :
    valuesOf (.error fault :: answers) = valuesOf answers := rfl

/-- A reader that goes on keeps its packet and stays within it, and the fields that it reads are
written with the bytes that it takes. -/
structure Goes (r : Reader) (answers : List (Except Fault Field.Value)) (r' : Reader) : Prop where
  packet : r'.packet = r.packet
  within : r'.taken ≤ r'.packet.length
  written : ∃ bytes, encodeAll (valuesOf answers) = some bytes ∧ bytes ++ r'.rest = r.rest

theorem goes_nil (h : r.taken ≤ r.packet.length) : r.Goes [] r :=
  ⟨rfl, h, [], rfl, rfl⟩

/-- One read, and what comes after it. -/
theorem Goes.cons (hrest : (r.read field).2.Goes answers r') :
    r.Goes ((r.read field).1 :: answers) r' := by
  by_cases hfits : field.size ≤ r.remaining
  · obtain ⟨value, hvalue, hread⟩ := read_of_le hfits
    rw [hread] at hrest ⊢
    obtain ⟨bytes, hbytes, hsplit⟩ := hrest.written
    refine ⟨hrest.packet, hrest.within, r.rest.take field.size ++ bytes, ?_, ?_⟩
    · simp [encodeAll, Field.encode_of_decode hvalue, hbytes]
    · rw [List.append_assoc, hsplit, rest_advance, List.take_append_drop]
  · rw [read_of_lt (by omega)] at hrest ⊢
    exact ⟨hrest.packet, hrest.within, hrest.written⟩

/-- A reader stays within its packet. -/
theorem taken_read_le (h : r.taken ≤ r.packet.length) (field : Field) :
    (r.read field).2.taken ≤ (r.read field).2.packet.length := by
  by_cases hfits : field.size ≤ r.remaining
  · obtain ⟨value, -, hread⟩ := read_of_le hfits
    simp [hread, remaining] at *
    omega
  · rw [read_of_lt (by omega)]
    exact h

/-- Whatever fields are asked for, the reader goes on. -/
theorem goes_readAll (h : r.taken ≤ r.packet.length) (fields : List Field) :
    r.Goes (r.readAll fields).1 (r.readAll fields).2 := by
  induction fields generalizing r with
  | nil => exact goes_nil h
  | cons field fields ih => exact Goes.cons (ih (taken_read_le h field))

/-- Fields after fields are read from where the first ones end. -/
theorem readAll_append (r : Reader) (fields more : List Field) :
    r.readAll (fields ++ more) =
      ((r.readAll fields).1 ++ ((r.readAll fields).2.readAll more).1,
        ((r.readAll fields).2.readAll more).2) := by
  induction fields generalizing r with
  | nil => rfl
  | cons field fields ih => simp [readAll, ih]

theorem length_readAll (r : Reader) (fields : List Field) :
    (r.readAll fields).1.length = fields.length := by
  induction fields generalizing r with
  | nil => rfl
  | cons field fields ih => simp [readAll, ih]

/-- **A reader takes exactly what it gives.**  After any row of reads, failed ones among them, the
fields that were read, written again, and the bytes that remain are the packet.  Another field is
read exactly if it fits, from the bytes that come next; otherwise nothing changes, so that whatever
could be read in its place can be read after it. -/
theorem readAll_consumes (packet : List UInt8) (fields : List Field) :
    ∃ answers r, readAll ⟨packet, 0⟩ fields = (answers, r) ∧
      answers.length = fields.length ∧
      0 ≤ r.remaining ∧ (r.rest.length : Int) = r.remaining ∧ r.rest = packet.drop r.taken ∧
      (∃ bytes, encodeAll (valuesOf answers) = some bytes ∧ bytes ++ r.rest = packet) ∧
      ∀ field : Field, if field.size ≤ r.remaining then
          ∃ value r', field.decode (r.rest.take field.size) = some value ∧
            readAll ⟨packet, 0⟩ (fields ++ [field]) = (answers ++ [.ok value], r') ∧
            r'.remaining = r.remaining - field.size ∧ r'.rest = r.rest.drop field.size
        else
          readAll ⟨packet, 0⟩ (fields ++ [field]) =
            (answers ++ [.error (.truncated field.size r.remaining)], r) ∧
          ∀ other value r',
            readAll ⟨packet, 0⟩ (fields ++ [other]) = (answers ++ [.ok value], r') →
            readAll ⟨packet, 0⟩ (fields ++ [field, other]) =
              (answers ++ [.error (.truncated field.size r.remaining), .ok value], r') := by
  obtain ⟨answers, r, hread⟩ : ∃ answers r, readAll ⟨packet, 0⟩ fields = (answers, r) := ⟨_, _, rfl⟩
  have hgoes : (Reader.mk packet 0).Goes answers r := by
    simpa [hread] using goes_readAll (r := ⟨packet, 0⟩) (Nat.zero_le _) fields
  have hlength : answers.length = fields.length := by
    simpa [hread] using length_readAll ⟨packet, 0⟩ fields
  have hpacket : r.packet = packet := hgoes.packet
  have hrest := length_rest hgoes.within
  have hone (field : Field) : readAll ⟨packet, 0⟩ (fields ++ [field]) =
      (answers ++ [(r.read field).1], (r.read field).2) := by
    simp [readAll_append, hread, readAll]
  refine ⟨answers, r, hread, hlength, by omega, hrest, by rw [rest, hpacket], hgoes.written, ?_⟩
  intro field
  split
  · next hfits =>
    obtain ⟨value, hvalue, hnext⟩ := read_of_le hfits
    refine ⟨value, _, hvalue, by rw [hone, hnext], ?_, ?_⟩
    · simp [remaining]
      omega
    · rw [rest_advance]
  · next hshort =>
    have hnext := read_of_lt (Int.not_le.1 hshort)
    refine ⟨by rw [hone, hnext], fun other value r' hother => ?_⟩
    simp only [hone, Prod.mk.injEq, List.append_cancel_left_eq, List.cons.injEq, and_true] at hother
    simp [readAll_append, hread, readAll, hnext, hother.1, hother.2]

/-- A packet of which three bytes remain after an address and a port. -/
def threeLeft : List UInt8 := [1, 2, 3, 4, 105, 135, 7, 8, 9]

/-- There a port is still read after an address that is not. -/
theorem readAll_consumes_threeLeft :
    readAll ⟨threeLeft, 0⟩ [.ip, .port, .port] =
        ([.ok (.ip "1.2.3.4"), .ok (.port 27015), .ok (.port 1800)], ⟨threeLeft, 8⟩) ∧
      readAll ⟨threeLeft, 0⟩ [.ip, .port, .ip, .port] =
        ([.ok (.ip "1.2.3.4"), .ok (.port 27015), .error (.truncated 4 3), .ok (.port 1800)],
          ⟨threeLeft, 8⟩) := by
  have htwo : readAll ⟨threeLeft, 0⟩ [.ip, .port] =
      ([.ok (.ip "1.2.3.4"), .ok (.port 27015)], ⟨threeLeft, 6⟩) := by
    decide +kernel
  have hthree : readAll ⟨threeLeft, 0⟩ [.ip, .port, .port] =
      ([.ok (.ip "1.2.3.4"), .ok (.port 27015), .ok (.port 1800)], ⟨threeLeft, 8⟩) := by
    decide +kernel
  obtain ⟨answers, r, hread, -, -, -, -, -, hnext⟩ := readAll_consumes threeLeft [.ip, .port]
  obtain ⟨rfl, rfl⟩ := Prod.mk.inj (htwo.symm.trans hread)
  have hip := hnext .ip
  rw [if_neg (by decide)] at hip
  exact ⟨hthree, hip.2 .port _ _ hthree⟩

end Reader

end ServerBrowser.Packet
