import ServerBrowser.Proofs.Response

/-!
# ServerBrowser.Proofs.Response.Format

The format of a response, in both directions.  Behind the header a packet is laid out as

```
records of the servers ++ ending ++ junk
```

where the ending is the null record when the page is the last one, and nothing otherwise.

* `readRecords_layout` — reading as many records as there is room for never runs short, and what is
  read is what stands there;
* `parse_append_layout` — every packet with the header and room for one record gives a page, laid
  out as above;
* `parse_format` — which packets are refused and why, what an accepted packet looks like, and that
  everything that looks like this is accepted as the page it is of.
-/

namespace ServerBrowser

/-! ## the addresses of records -/

namespace ServerAddress

/-- A dotted address in its canonical text, and a port that fits into two bytes. -/
def IsCanonical (server : ServerAddress) : Prop :=
  (∃ a b c d : UInt8, server.ip = Inet.dotted a b c d) ∧ 0 ≤ server.port ∧ server.port ≤ 65535

/-- Every port that fits into two bytes is the port of two bytes. -/
theorem exists_portOf {port : Int} (h : 0 ≤ port ∧ port ≤ 65535) :
    ∃ high low, port = portOf high low := by
  have hhigh : port.toNat / 256 < 256 := by omega
  have hlow : port.toNat % 256 < 256 := by omega
  refine ⟨UInt8.ofNat (port.toNat / 256), UInt8.ofNat (port.toNat % 256), ?_⟩
  have htoNat : ∀ n < 256, (UInt8.ofNat n).toNat = n := fun n => UInt8.toNat_ofNat_of_lt
  rw [portOf, htoNat _ hhigh, htoNat _ hlow]
  omega

/-- The addresses that records stand for are the canonical ones. -/
theorem isRecord_iff_isCanonical {server : ServerAddress} :
    server.IsRecord ↔ server.IsCanonical := by
  constructor
  · rintro ⟨a, b, c, d, high, low, rfl⟩
    have hhigh := high.toNat_lt
    have hlow := low.toNat_lt
    refine ⟨⟨a, b, c, d, rfl⟩, ?_⟩
    simp only [ofRecord, portOf]
    omega
  · rintro ⟨⟨a, b, c, d, hip⟩, hport⟩
    obtain ⟨high, low, hport⟩ := exists_portOf hport
    exact ⟨a, b, c, d, high, low, by cases server; simp_all [ofRecord]⟩

/-- Only six zeros are the null record. -/
theorem ofRecord_eq_null {a b c d high low : UInt8} (h : ofRecord a b c d high low = null) :
    [a, b, c, d, high, low] = [0, 0, 0, 0, 0, 0] := by
  have hbytes := toBytes_ofRecord a b c d high low
  have hzeros : null.toBytes = .ok [0, 0, 0, 0, 0, 0] := toBytes_ofRecord 0 0 0 0 0 0
  rw [h, hzeros] at hbytes
  exact (Except.ok.inj hbytes).symm

end ServerAddress

namespace Response

/-- What ends the records of a page: the null record on the last page. -/
def ending (isLast : Bool) : List UInt8 :=
  if isLast then [0, 0, 0, 0, 0, 0] else []

/-! ## reading records -/

/-- Where there is room for a record, one stands at the front. -/
theorem exists_record {bytes : List UInt8} (h : 6 ≤ bytes.length) :
    ∃ a b c d high low rest, bytes = a :: b :: c :: d :: high :: low :: rest := by
  rcases bytes with _ | ⟨a, _ | ⟨b, _ | ⟨c, _ | ⟨d, _ | ⟨high, _ | ⟨low, rest⟩⟩⟩⟩⟩⟩
  case cons.cons.cons.cons.cons.cons => exact ⟨a, b, c, d, high, low, rest, rfl⟩
  all_goals simp at h

/-- Reading records never runs short where there is room for them: it gives a page whose records and
ending stand at the front of the bytes, and only the null record stops it early. -/
theorem readRecords_layout (count : Nat) {bytes : List UInt8} (h : 6 * count ≤ bytes.length) :
    ∃ page listed rest, readRecords count bytes = .ok page ∧ Listed page.servers ∧
      records page.servers = .ok listed ∧ bytes = listed ++ ending page.isLast ++ rest ∧
      (page.isLast = false → listed.length = 6 * count) := by
  induction count generalizing bytes with
  | zero => exact ⟨⟨[], false⟩, [], bytes, rfl, by simp [Listed], rfl, by simp [ending], by simp⟩
  | succ count ih =>
      have hrecord : 6 ≤ bytes.length := by omega
      obtain ⟨a, b, c, d, high, low, rest, rfl⟩ := exists_record hrecord
      by_cases hnull : ServerAddress.ofRecord a b c d high low = .null
      · have hzeros := ServerAddress.ofRecord_eq_null hnull
        simp only [List.cons.injEq, and_true] at hzeros
        obtain ⟨rfl, rfl, rfl, rfl, rfl, rfl⟩ := hzeros
        exact ⟨⟨[], true⟩, [], rest, readRecords_null count rest, by simp [Listed], rfl,
          by simp [ending], by simp⟩
      · have hroom : 6 * count ≤ rest.length := by
          simp only [List.length_cons] at h
          omega
        obtain ⟨page, listed, junk, hread, hlisted, hrecords, rfl, hlength⟩ := ih hroom
        refine ⟨⟨.ofRecord a b c d high low :: page.servers, page.isLast⟩,
          [a, b, c, d, high, low] ++ listed, junk, ?_, ?_, ?_, by simp, fun hlast => ?_⟩
        · rw [readRecords_cons _ _ hnull, hread]
          rfl
        · exact List.forall_mem_cons.2 ⟨⟨⟨a, b, c, d, high, low, rfl⟩, hnull⟩, hlisted⟩
        · rw [records, ServerAddress.toBytes_ofRecord, hrecords]
          rfl
        · rw [List.length_append, hlength hlast]
          simp
          omega

/-! ## packets -/

theorem hasHeader_iff (packet : List UInt8) :
    hasHeader packet = true ↔ packet.take 6 = header := by
  rw [hasHeader, List.isPrefixOf_iff_prefix, List.prefix_iff_eq_take]
  exact eq_comm

/-- What starts with the header is the header and what follows it. -/
theorem eq_header_append {packet : List UInt8} (h : packet.take 6 = header) :
    packet = header ++ packet.drop 6 := by
  rw [← h, List.take_append_drop]

/-- A packet that does not start with the header is refused. -/
theorem parse_of_badHeader {packet : List UInt8} (h : packet.take 6 ≠ header) :
    parse packet = .error .badHeader := by
  have hbad : hasHeader packet = false := by
    rw [← Bool.not_eq_true, hasHeader_iff]
    exact h
  simp [parse, hbad]

/-- A packet without room for a record is refused. -/
theorem parse_append_of_lt {rest : List UInt8} (h : rest.length < 6) :
    parse (header ++ rest) = .error .emptyPage := by
  have hcount : recordCount (header ++ rest) = 0 := by
    rw [recordCount, body_append]
    exact Nat.div_eq_of_lt h
  simp [parse, hasHeader_append, hcount]

/-- Every other packet gives a page, and this is how it is laid out. -/
theorem parse_append_layout {rest : List UInt8} (h : 6 ≤ rest.length) :
    ∃ page listed junk, parse (header ++ rest) = .ok page ∧ Listed page.servers ∧
      records page.servers = .ok listed ∧ rest = listed ++ ending page.isLast ++ junk ∧
      (page.isLast = false → junk.length < 6) := by
  have hroom : 6 * (rest.length / 6) ≤ rest.length := Nat.mul_div_le _ _
  obtain ⟨page, listed, junk, hread, hlisted, hrecords, hrest, hlength⟩ :=
    readRecords_layout (rest.length / 6) hroom
  refine ⟨page, listed, junk, by rw [parse_append h, hread], hlisted, hrecords, hrest,
    fun hlast => ?_⟩
  -- without a null record as many records were read as there was room for
  have hwhole := congrArg List.length hrest
  rw [hlast, List.length_append, List.length_append, hlength hlast] at hwhole
  simp [ending] at hwhole
  omega

/-- The servers of a parsed page can be listed. -/
theorem listed_of_parse {packet : List UInt8} {page : Page} (h : parse packet = .ok page) :
    Listed page.servers := by
  by_cases hheader : packet.take 6 = header
  · have hpacket := eq_header_append hheader
    by_cases hshort : (packet.drop 6).length < 6
    · rw [hpacket, parse_append_of_lt hshort] at h
      cases h
    · obtain ⟨page', listed, junk, hparse, hlisted, -⟩ :=
        parse_append_layout (Nat.le_of_not_lt hshort)
      rw [← hpacket, h] at hparse
      cases hparse
      exact hlisted
  · rw [parse_of_badHeader hheader] at h
    cases h

/-- Servers that can be listed are parsed back, behind the null record whatever follows, and without
it before fewer bytes than a record has. -/
theorem parse_records_append {servers : List ServerAddress} (h : Listed servers) :
    ∃ listed, records servers = .ok listed ∧ ∀ junk,
      parse (header ++ listed ++ ending true ++ junk) = .ok ⟨servers, true⟩ ∧
      (servers ≠ [] → junk.length < 6 →
        parse (header ++ listed ++ junk) = .ok ⟨servers, false⟩) := by
  obtain ⟨listed, hlisted, -, -⟩ := records_of_listed h
  have hnull : ServerAddress.null.toBytes = .ok [0, 0, 0, 0, 0, 0] :=
    ServerAddress.toBytes_ofRecord 0 0 0 0 0 0
  have hlast : ofPage ⟨servers, true⟩ = .ok (header ++ listed ++ ending true) := by
    simp [ofPage, hlisted, hnull, ending, bind, Except.bind, pure, Except.pure]
  have hopen : ofPage ⟨servers, false⟩ = .ok (header ++ listed) := by
    simp [ofPage, hlisted, bind, Except.bind, pure, Except.pure]
  refine ⟨listed, hlisted, fun junk => ⟨parse_ofPage_append h hlast junk (.inl rfl), ?_⟩⟩
  intro hservers hjunk
  exact parse_ofPage_append h hopen junk (.inr ⟨hservers, hjunk⟩)

/-- **The format of responses.**  A packet is refused for its header exactly where its first six
bytes are not the header, and for being empty exactly where fewer than six bytes follow it.  All
others are accepted, and consist of what their pages say; and what consists of a page, with the null
record or without it, is accepted as that page. -/
theorem parse_format :
    (∀ packet : List UInt8,
      (parse packet = .error .badHeader ↔ packet.take 6 ≠ header) ∧
      (packet.take 6 = header →
        (parse packet = .error .emptyPage ↔ (packet.drop 6).length < 6) ∧
        (6 ≤ (packet.drop 6).length → ∃ page listed junk, parse packet = .ok page ∧
          records page.servers = .ok listed ∧
          packet = header ++ listed ++ ending page.isLast ++ junk ∧
          (∀ server ∈ page.servers, server ≠ .null) ∧
          (page.isLast = false → junk.length < 6)))) ∧
    ∀ servers : List ServerAddress, (∀ server ∈ servers, server.IsCanonical ∧ server ≠ .null) →
      ∃ listed, records servers = .ok listed ∧ ∀ junk,
        parse (header ++ listed ++ ending true ++ junk) = .ok ⟨servers, true⟩ ∧
        (servers ≠ [] → junk.length < 6 →
          parse (header ++ listed ++ junk) = .ok ⟨servers, false⟩) := by
  refine ⟨fun packet => ?_, fun servers hservers => ?_⟩
  · by_cases hheader : packet.take 6 = header
    · have hpacket := eq_header_append hheader
      by_cases hshort : (packet.drop 6).length < 6
      · have hempty := parse_append_of_lt hshort
        rw [← hpacket] at hempty
        have hnotBad : parse packet ≠ .error .badHeader := by simp [hempty]
        exact ⟨iff_of_false hnotBad (not_not_intro hheader),
          fun _ => ⟨iff_of_true hempty hshort, fun hroom => absurd hroom (by omega)⟩⟩
      · obtain ⟨page, listed, junk, hparse, hlisted, hrecords, hrest, hjunk⟩ :=
          parse_append_layout (Nat.le_of_not_lt hshort)
        rw [← hpacket] at hparse
        have hnotBad : parse packet ≠ .error .badHeader := by simp [hparse]
        have hnotEmpty : parse packet ≠ .error .emptyPage := by simp [hparse]
        refine ⟨iff_of_false hnotBad (not_not_intro hheader),
          fun _ => ⟨iff_of_false hnotEmpty hshort, fun _ => ?_⟩⟩
        refine ⟨page, listed, junk, hparse, hrecords, ?_, fun server hserver =>
          (hlisted server hserver).2, hjunk⟩
        calc
          packet = header ++ packet.drop 6 := hpacket
          _ = header ++ listed ++ ending page.isLast ++ junk := by rw [hrest]; simp
    · have hbad := parse_of_badHeader hheader
      exact ⟨by simp [hbad, hheader], fun h => absurd h hheader⟩
  · exact parse_records_append fun server hserver =>
      ⟨ServerAddress.isRecord_iff_isCanonical.2 (hservers server hserver).1,
        (hservers server hserver).2⟩

/-- A server that stands before the null record and junk, and before junk alone. -/
theorem parse_format_single :
    (∀ server ∈ [(⟨"1.2.3.4", 27015⟩ : ServerAddress)], server.IsCanonical ∧ server ≠ .null) ∧
      ∃ listed, records [⟨"1.2.3.4", 27015⟩] = .ok listed ∧
        parse (header ++ listed ++ ending true ++ [7]) = .ok ⟨[⟨"1.2.3.4", 27015⟩], true⟩ ∧
        parse (header ++ listed ++ [7]) = .ok ⟨[⟨"1.2.3.4", 27015⟩], false⟩ := by
  have hserver : ∀ server ∈ [(⟨"1.2.3.4", 27015⟩ : ServerAddress)],
      server.IsCanonical ∧ server ≠ .null := by
    rw [List.forall_mem_singleton]
    exact ⟨⟨⟨1, 2, 3, 4, by decide⟩, by decide, by decide⟩, by decide⟩
  obtain ⟨listed, hlisted, hparse⟩ := parse_format.2 _ hserver
  exact ⟨hserver, listed, hlisted, (hparse [7]).1, (hparse [7]).2 (by simp) (by simp)⟩

end Response

end ServerBrowser
