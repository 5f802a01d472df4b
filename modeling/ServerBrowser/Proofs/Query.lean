import ServerBrowser.Proofs.Address
import ServerBrowser.Query

/-!
# ServerBrowser.Proofs.Query

What a master server reads off a query packet: the server to go on after, which stands as a text
between the region and the first zero byte.  A query for what follows a server names that server
(`cursor?_toBytes`).
-/

namespace ServerBrowser

namespace Text

/-- The text of ASCII bytes. -/
def ofAsciiBytes (bytes : List UInt8) : String :=
  String.ofList (bytes.map fun b => Char.ofNat b.toNat)

/-- A text of ASCII has its characters as bytes, and these bytes are that text. -/
theorem asciiBytes_eq_ok {text : String} (h : ∀ c ∈ text.toList, c.toNat < 0x80) :
    ∃ bytes, asciiBytes text = .ok bytes ∧ ofAsciiBytes bytes = text ∧
      bytes = text.toList.map fun c => UInt8.ofNat c.toNat := by
  have hnone : nonAscii? text.toList = none :=
    (nonAscii?_eq_none_iff _).2 fun c hc => by simpa [isAscii] using h c hc
  refine ⟨text.toList.map fun c => UInt8.ofNat c.toNat, by rw [asciiBytes, hnone], ?_, rfl⟩
  have hback : ∀ c ∈ text.toList, Char.ofNat (UInt8.ofNat c.toNat).toNat = c := fun c hc => by
    have hsmall : (UInt8.ofNat c.toNat).toNat = c.toNat :=
      UInt8.toNat_ofNat_of_lt (Nat.lt_trans (h c hc) (by decide))
    rw [hsmall, Char.ofNat_toNat]
  calc
    ofAsciiBytes (text.toList.map fun c => UInt8.ofNat c.toNat)
      = String.ofList (text.toList.map fun c => Char.ofNat (UInt8.ofNat c.toNat).toNat) := by
        rw [ofAsciiBytes, List.map_map]
        rfl
    _ = String.ofList (text.toList.map id) := by rw [List.map_congr_left hback]; rfl
    _ = text := by simp

end Text

namespace Query

/-- The server that a query asks to go on after: the one that the text before the first zero byte
names. -/
def cursor? : List UInt8 → Option ServerAddress
  | start :: _region :: rest =>
    if start = magic then ServerAddress.ofText? (Text.ofAsciiBytes (rest.takeWhile (· != 0)))
    else none
  | _ => none

/-- A query for what follows the address of a record has a packet, and the packet names that
address. -/
theorem cursor?_toBytes {query : Query} {server : ServerAddress} (h : server.IsRecord)
    (hcursor : query.cursor = server.text) :
    ∃ packet, query.toBytes = .ok packet ∧ cursor? packet = some server := by
  have hascii : ∀ c ∈ server.text.toList, c.toNat < 0x80 := fun c hc => by
    have := ServerAddress.bounds_of_mem_text h hc
    omega
  obtain ⟨bytes, hbytes, hback, hmap⟩ := Text.asciiBytes_eq_ok hascii
  have hnonzero : ∀ b ∈ bytes, (b != 0) = true := fun b hb => by
    rw [hmap] at hb
    obtain ⟨c, hc, rfl⟩ := List.mem_map.1 hb
    have hbounds := ServerAddress.bounds_of_mem_text h hc
    have hnat : (UInt8.ofNat c.toNat).toNat = c.toNat :=
      UInt8.toNat_ofNat_of_lt (Nat.lt_trans (hascii c hc) (by decide))
    rw [bne_iff_ne]
    intro hzero
    rw [hzero] at hnat
    simp at hnat
    omega
  have hpacket : query.toBytes = .ok
      (magic :: UInt8.ofNat (query.region % 256).toNat ::
        (bytes ++ ([0] ++ filterBytes query.filters))) := by
    simp [toBytes, Packet.cstring, hcursor, hbytes, Packet.byte, Except.map]
  refine ⟨_, hpacket, ?_⟩
  have hspan := span_append _ ([0] ++ filterBytes query.filters) hnonzero
    fun c hc => by
      simp only [List.cons_append, List.head?_cons, Option.mem_def, Option.some.injEq] at hc
      subst hc
      rfl
  rw [cursor?, if_pos rfl, hspan.1, hback, ServerAddress.ofText?_text h]

end Query

end ServerBrowser
