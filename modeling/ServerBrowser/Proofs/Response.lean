import ServerBrowser.Proofs.Address
import ServerBrowser.Response

/-!
# ServerBrowser.Proofs.Response

The writer of response packets beside their parser:

```
ofPage page = header ++ records page.servers ++ (the null record, when page.isLast)
```

A written page is parsed back, whatever follows it in the packet (`parse_ofPage_append`): a page
that ends the listing bears anything behind its null record, another one bears fewer bytes than a
record has.
-/

namespace ServerBrowser.Response

/-- The records of servers, one after the other. -/
def records : List ServerAddress → Except Fault (List UInt8)
  | [] => .ok []
  | server :: rest => do
    return (← server.toBytes) ++ (← records rest)

/-- The packet of a page. -/
def ofPage (page : Page) : Except Fault (List UInt8) := do
  let listed ← records page.servers
  let ending ← if page.isLast then ServerAddress.null.toBytes else .ok []
  return header ++ listed ++ ending

/-- The servers of a page that can be written and parsed back: addresses of records, none of which
is the null record. -/
def Listed (servers : List ServerAddress) : Prop :=
  ∀ server ∈ servers, server.IsRecord ∧ server ≠ .null

/-! ## records -/

/-- Reading goes on behind a record that is not the null record. -/
theorem readRecords_cons {a b c d high low : UInt8} (count : Nat) (rest : List UInt8)
    (h : ServerAddress.ofRecord a b c d high low ≠ .null) :
    readRecords (count + 1) (a :: b :: c :: d :: high :: low :: rest) =
      (readRecords count rest).map fun page =>
        { page with servers := .ofRecord a b c d high low :: page.servers } := by
  have hsome : (ServerAddress.ofRecord a b c d high low).isNull = false := by
    rw [← Bool.not_eq_true, ServerAddress.isNull_iff]
    exact h
  rw [readRecords, Packet.readAddress_cons]
  simp only [bind, Except.bind, hsome]
  cases readRecords count rest <;> rfl

/-- Reading ends at the null record. -/
theorem readRecords_null (count : Nat) (rest : List UInt8) :
    readRecords (count + 1) (0 :: 0 :: 0 :: 0 :: 0 :: 0 :: rest) = .ok ⟨[], true⟩ := by
  rw [readRecords, Packet.readAddress_cons]
  rfl

/-- Servers that can be listed have records of six bytes each, and these are read as the servers
they are of before the reader goes on. -/
theorem records_of_listed {servers : List ServerAddress} (h : Listed servers) :
    ∃ bytes, records servers = .ok bytes ∧ bytes.length = 6 * servers.length ∧
      ∀ (count : Nat) (rest : List UInt8),
        readRecords (servers.length + count) (bytes ++ rest) =
          (readRecords count rest).map fun page =>
            { page with servers := servers ++ page.servers } := by
  induction servers with
  | nil =>
      refine ⟨[], rfl, rfl, fun count rest => ?_⟩
      simp only [List.length_nil, Nat.zero_add, List.nil_append]
      cases readRecords count rest <;> rfl
  | cons server servers ih =>
      obtain ⟨⟨⟨a, b, c, d, high, low, rfl⟩, hnull⟩, hrest⟩ := List.forall_mem_cons.1 h
      obtain ⟨bytes, hbytes, hlength, hread⟩ := ih hrest
      refine ⟨[a, b, c, d, high, low] ++ bytes, ?_, ?_, fun count rest => ?_⟩
      · rw [records, ServerAddress.toBytes_ofRecord, hbytes]
        rfl
      · rw [List.length_append, hlength, List.length_cons]
        simp
        omega
      · have hcount : (ServerAddress.ofRecord a b c d high low :: servers).length + count =
            (servers.length + count) + 1 := by
          rw [List.length_cons]
          omega
        rw [hcount]
        show readRecords _ (a :: b :: c :: d :: high :: low :: (bytes ++ rest)) = _
        rw [readRecords_cons _ _ hnull, hread]
        cases readRecords count rest <;> rfl

/-- A page whose servers can be listed has a packet. -/
theorem ofPage_of_listed {page : Page} (h : Listed page.servers) :
    ∃ packet, ofPage page = .ok packet := by
  obtain ⟨bytes, hbytes, -, -⟩ := records_of_listed h
  have hnull : ServerAddress.null.toBytes = .ok [0, 0, 0, 0, 0, 0] :=
    ServerAddress.toBytes_ofRecord 0 0 0 0 0 0
  cases hlast : page.isLast <;> simp [ofPage, hbytes, hlast, hnull, bind, Except.bind, pure,
    Except.pure]

/-! ## packets -/

theorem hasHeader_append (rest : List UInt8) : hasHeader (header ++ rest) = true :=
  List.isPrefixOf_iff_prefix.2 (List.prefix_append header rest)

theorem body_append (rest : List UInt8) : body (header ++ rest) = rest := by
  simp [body]

/-- A packet that starts with the header is parsed record by record. -/
theorem parse_append {rest : List UInt8} (h : 6 ≤ rest.length) :
    parse (header ++ rest) = readRecords (rest.length / 6) rest := by
  have hcount : recordCount (header ++ rest) = rest.length / 6 := by
    rw [recordCount, body_append]
    rfl
  have hpos : ¬ rest.length / 6 = 0 := by omega
  rw [parse, hasHeader_append, hcount, body_append]
  simp [hpos]

/-- **Pages are parsed back**, whatever follows them: behind the null record any bytes, behind
another record fewer bytes than a record has. -/
theorem parse_ofPage_append {page : Page} {packet : List UInt8} (h : Listed page.servers)
    (hpacket : ofPage page = .ok packet) (junk : List UInt8)
    (hjunk : page.isLast = true ∨ page.servers ≠ [] ∧ junk.length < 6) :
    parse (packet ++ junk) = .ok page := by
  obtain ⟨servers, isLast⟩ := page
  obtain ⟨bytes, hbytes, hlength, hread⟩ := records_of_listed h
  cases isLast with
  | true =>
      have hnull : ServerAddress.null.toBytes = .ok [0, 0, 0, 0, 0, 0] :=
        ServerAddress.toBytes_ofRecord 0 0 0 0 0 0
      have hwhole : packet = header ++ (bytes ++ [0, 0, 0, 0, 0, 0]) := by
        have := hpacket
        simp only [ofPage, hbytes, if_true, hnull] at this
        simpa [bind, Except.bind, pure, Except.pure] using this.symm
      have hcount : (bytes ++ ([0, 0, 0, 0, 0, 0] ++ junk)).length / 6 =
          servers.length + (junk.length / 6 + 1) := by
        simp only [List.length_append, hlength, List.length_cons, List.length_nil]
        omega
      have hlong : 6 ≤ (bytes ++ ([0, 0, 0, 0, 0, 0] ++ junk)).length := by
        simp only [List.length_append, List.length_cons, List.length_nil]
        omega
      rw [hwhole, List.append_assoc, List.append_assoc, parse_append hlong, hcount, hread]
      show (readRecords _ (0 :: 0 :: 0 :: 0 :: 0 :: 0 :: junk)).map _ = _
      rw [readRecords_null]
      simp [Except.map]
  | false =>
      have hsome : servers ≠ [] ∧ junk.length < 6 := by simpa using hjunk
      have hservers := List.length_pos_iff.2 hsome.1
      have hwhole : packet = header ++ bytes := by
        have := hpacket
        simp only [ofPage, hbytes] at this
        simpa [bind, Except.bind, pure, Except.pure] using this.symm
      have hcount : (bytes ++ junk).length / 6 = servers.length + 0 := by
        simp only [List.length_append, hlength]
        omega
      have hlong : 6 ≤ (bytes ++ junk).length := by
        simp only [List.length_append, hlength]
        omega
      rw [hwhole, List.append_assoc, parse_append hlong, hcount, hread]
      simp [readRecords, Except.map]

/-- A written page is parsed back. -/
theorem parse_ofPage {page : Page} {packet : List UInt8} (h : Listed page.servers)
    (hpacket : ofPage page = .ok packet) (hsome : page.servers = [] → page.isLast = true) :
    parse packet = .ok page := by
  have hjunk : page.isLast = true ∨ page.servers ≠ [] ∧ ([] : List UInt8).length < 6 := by
    by_cases hservers : page.servers = []
    · exact .inl (hsome hservers)
    · exact .inr ⟨hservers, by simp⟩
  have hparse := parse_ofPage_append h hpacket [] hjunk
  rwa [List.append_nil] at hparse

/-! ## what a parse gives -/

/-- Reading a record takes six bytes, or says how many are missing. -/
theorem readAddress_cases (bytes : List UInt8) :
    (∃ a b c d high low rest, bytes = a :: b :: c :: d :: high :: low :: rest) ∨
      ∃ needed available, Packet.readAddress bytes = .error (.truncated needed available) := by
  rcases bytes with _ | ⟨a, _ | ⟨b, _ | ⟨c, _ | ⟨d, _ | ⟨high, _ | ⟨low, rest⟩⟩⟩⟩⟩⟩
  all_goals first
    | exact .inl ⟨_, _, _, _, _, _, _, rfl⟩
    | exact .inr ⟨_, _, rfl⟩

/-- What reading records gives: addresses of records, as many as asked for unless the null record
came first; or that bytes are missing. -/
theorem readRecords_cases (count : Nat) (bytes : List UInt8) :
    (∃ page, readRecords count bytes = .ok page ∧ (∀ server ∈ page.servers, server.IsRecord) ∧
        (page.isLast = false → page.servers.length = count)) ∨
      ∃ needed available, readRecords count bytes = .error (.truncated needed available) := by
  induction count generalizing bytes with
  | zero => exact .inl ⟨⟨[], false⟩, rfl, by simp, fun _ => rfl⟩
  | succ count ih =>
      obtain ⟨a, b, c, d, high, low, rest, rfl⟩ | ⟨needed, available, hshort⟩ :=
        readAddress_cases bytes
      · by_cases hnull : ServerAddress.ofRecord a b c d high low = .null
        · refine .inl ⟨⟨[], true⟩, ?_, by simp, by simp⟩
          rw [readRecords, Packet.readAddress_cons]
          simp [bind, Except.bind, hnull, (ServerAddress.isNull_iff _).2, pure, Except.pure]
        · rw [readRecords_cons _ _ hnull]
          obtain ⟨page, hpage, hrecords, hlength⟩ | ⟨needed, available, hshort⟩ := ih rest
          · refine .inl ⟨⟨.ofRecord a b c d high low :: page.servers, page.isLast⟩,
              by rw [hpage]; rfl,
              List.forall_mem_cons.2 ⟨⟨a, b, c, d, high, low, rfl⟩, hrecords⟩, fun hlast => ?_⟩
            rw [List.length_cons, hlength hlast]
          · exact .inr ⟨needed, available, by rw [hshort]; rfl⟩
      · exact .inr ⟨needed, available, by rw [readRecords, hshort]; rfl⟩

/-- What a parsed packet gives: addresses of records, and at least one of them unless the page is
the last. -/
theorem parse_eq_ok {packet : List UInt8} {page : Page} (h : parse packet = .ok page) :
    (∀ server ∈ page.servers, server.IsRecord) ∧ (page.isLast = false → page.servers ≠ []) := by
  rw [parse] at h
  split at h
  · cases h
  · split at h
    · cases h
    · obtain ⟨page', hpage, hrecords, hlength⟩ | ⟨_, _, hshort⟩ :=
        readRecords_cases (recordCount packet) (body packet)
      · obtain rfl := Except.ok.inj (hpage.symm.trans h)
        refine ⟨hrecords, fun hlast hnil => ?_⟩
        have hzero := hlength hlast
        rw [hnil, List.length_nil] at hzero
        exact absurd hzero.symm ‹_›
      · cases hshort.symm.trans h

/-- How a packet may break the format. -/
theorem parse_eq_error {packet : List UInt8} {fault : Fault} (h : parse packet = .error fault) :
    fault = .badHeader ∨ fault = .emptyPage ∨
      ∃ needed available, fault = .truncated needed available := by
  rw [parse] at h
  split at h
  · cases h
    exact .inl rfl
  · split at h
    · cases h
      exact .inr (.inl rfl)
    · obtain ⟨page, hpage, -, -⟩ | ⟨needed, available, hshort⟩ :=
        readRecords_cases (recordCount packet) (body packet)
      · cases hpage.symm.trans h
      · cases hshort.symm.trans h
        exact .inr (.inr ⟨needed, available, rfl⟩)

/-- A packet that breaks the format is told as a fault of the family. -/
theorem inFamily_of_parse {packet : List UInt8} {fault : Fault}
    (h : parse packet = .error fault) : fault.inFamily = true := by
  obtain rfl | rfl | ⟨needed, available, rfl⟩ := parse_eq_error h <;> rfl

/-- It is no failure of the transport. -/
theorem isTransport_of_parse {packet : List UInt8} {fault : Fault}
    (h : parse packet = .error fault) : fault.isTransport = false := by
  obtain rfl | rfl | ⟨needed, available, rfl⟩ := parse_eq_error h <;> rfl

end ServerBrowser.Response
