import ServerBrowser.Proofs.Query
import ServerBrowser.Proofs.Text.Fields

/-!
# ServerBrowser.Proofs.Query.Grammar

The grammar of query packets, and a reader for it.

```
0x31   region   cursor text, 0x00   0x00, 0x00
0x31   region   cursor text, 0x00   \or\N\key\value…\key\value, 0x00
```

The number `N` counts the pairs of keys and values that follow it.  Keys and values are texts
without backslashes and null characters, so the backslashes divide the text of the filters in one
way only, and the zero byte behind it is the first one.

* `parse?_eq_some_iff` — the reader takes exactly what the grammar describes off the front of the
  bytes, so no packet has two readings;
* `written_toBytes` — the packet of a query is in the grammar and is read as that query, and two
  queries with the same packet say the same.
-/

namespace ServerBrowser

namespace Filter

/-- Whether a text can be a key or a value between backslashes, in a text that a zero byte ends. -/
def IsPlain (cs : List Char) : Prop :=
  '\\' ∉ cs ∧ '\x00' ∉ cs

instance (cs : List Char) : Decidable (IsPlain cs) :=
  inferInstanceAs (Decidable (_ ∧ _))

/-- Whether a token is that of a plain key and a plain value. -/
def IsPair (t : String) : Prop :=
  ∃ key value : String, IsPlain key.toList ∧ IsPlain value.toList ∧ t = token key value

end Filter

namespace Query

open ServerBrowser.Filter ServerBrowser.Text

/-! ## the grammar -/

/-- The text of pairs, one after the other. -/
inductive Pairs : List String → List Char → Prop
  | nil : Pairs [] []
  | cons {key value : String} {tokens : List String} {text : List Char}
    (hkey : IsPlain key.toList) (hvalue : IsPlain value.toList) (rest : Pairs tokens text) :
    Pairs (token key value :: tokens) ('\\' :: key.toList ++ '\\' :: value.toList ++ text)

/-- The text `\or\N` and what follows it. -/
def counted (count : Nat) (text : List Char) : List Char :=
  ['\\', 'o', 'r', '\\'] ++ Nat.toDigits 10 count ++ text

/-- The filters of a packet: two zero bytes, or the number of pairs, the pairs and a zero byte. -/
inductive Filters : List String → List UInt8 → Prop
  | none : Filters [] [0, 0]
  | some {tokens : List String} {text : List Char} (pairs : Pairs tokens text) :
    Filters tokens (utf8 (counted tokens.length text) ++ [0])

/-- The packet of what a query says on the wire. -/
inductive Written : Query → List UInt8 → Prop
  | packet {cursor filterBytes : List UInt8} {tokens : List String} (region : UInt8)
    (ascii : ∀ b ∈ cursor, b ≠ 0 ∧ b < 0x80) (filters : Filters tokens filterBytes) :
    Written ⟨ofAsciiBytes cursor, tokens, region.toNat⟩
      (0x31 :: region :: cursor ++ 0 :: filterBytes)

/-! ## the reader -/

/-- The tokens of fields, two for each token. -/
def pairs? : List (List Char) → Option (List String)
  | [] => some []
  | [_] => none
  | key :: value :: fields =>
    (pairs? fields).map (token (String.ofList key) (String.ofList value) :: ·)

/-- The tokens of a text that counts them. -/
def tokens? (text : List Char) : Option (List String) :=
  match text.splitOn '\\' with
  | [] :: ['o', 'r'] :: count :: fields =>
    (pairs? fields).filter fun tokens => count = Nat.toDigits 10 tokens.length
  | _ => none

/-- The filters at the front of bytes, and the bytes behind them. -/
def filters? (bytes : List UInt8) : Option (List String × List UInt8) :=
  match terminated? bytes with
  | some ([], 0 :: rest) => some ([], rest)
  | some (front, rest) => ((decode? front).bind tokens?).map fun tokens => (tokens, rest)
  | none => none

/-- What the packet at the front of bytes says, and the bytes behind it. -/
def parse? : List UInt8 → Option (Query × List UInt8)
  | start :: region :: bytes =>
    match terminated? bytes with
    | some (cursor, rest) =>
      if start = magic ∧ cursor.all (· < 0x80) then
        (filters? rest).map fun (tokens, rest) =>
          (⟨ofAsciiBytes cursor, tokens, region.toNat⟩, rest)
      else none
    | none => none
  | _ => none

/-! ## the reader takes what the grammar describes -/

/-- Pairs are fields behind backslashes, two for each token. -/
theorem pairs_iff {tokens : List String} {text : List Char} :
    Pairs tokens text ↔ ∃ fields, pairs? fields = some tokens ∧ (∀ f ∈ fields, IsPlain f) ∧
      text = fields.flatMap ('\\' :: ·) := by
  constructor
  · intro h
    induction h with
    | nil => exact ⟨[], rfl, by simp, rfl⟩
    | @cons key value tokens text hkey hvalue rest ih =>
        obtain ⟨fields, hfields, hplain, rfl⟩ := ih
        refine ⟨key.toList :: value.toList :: fields, by simp [pairs?, hfields], ?_, by simp⟩
        simp only [List.forall_mem_cons]
        exact ⟨hkey, hvalue, hplain⟩
  · rintro ⟨fields, hfields, hplain, rfl⟩
    induction fields using pairs?.induct generalizing tokens with
    | case1 =>
        cases hfields
        exact .nil
    | case2 => cases hfields
    | case3 key value fields ih =>
        simp only [List.forall_mem_cons] at hplain
        obtain ⟨rest, hrest, rfl⟩ := Option.map_eq_some_iff.1 hfields
        have hkey : IsPlain (String.ofList key).toList := by simpa using hplain.1
        have hvalue : IsPlain (String.ofList value).toList := by simpa using hplain.2.1
        simpa using Pairs.cons hkey hvalue (ih hrest hplain.2.2)

/-- The digits of a number are plain. -/
theorem isPlain_toDigits (n : Nat) : IsPlain (Nat.toDigits 10 n) :=
  ⟨fun h => by simpa using isDigit_of_mem_toDigits h,
    fun h => by simpa using isDigit_of_mem_toDigits h⟩

/-- The text that counts its tokens is read as they are. -/
theorem tokens?_eq_some_iff {text : List Char} {tokens : List String} (hnull : '\x00' ∉ text) :
    tokens? text = some tokens ↔
      ∃ pairs, Pairs tokens pairs ∧ text = counted tokens.length pairs := by
  constructor
  · intro h
    unfold tokens? at h
    split at h
    · next count fields hsplit =>
        obtain ⟨htext, hfields⟩ := splitOn_eq_cons_iff.1 hsplit
        obtain ⟨htokens, hcount⟩ := Option.filter_eq_some_iff.1 h
        simp only [decide_eq_true_eq] at hcount
        have hplain : ∀ f ∈ fields, IsPlain f := fun f hf =>
          ⟨hfields f (by simp [hf]), fun hmem => hnull (by
            rw [htext]
            simp only [List.nil_append, List.flatMap_cons, List.mem_append, List.mem_flatMap]
            exact .inr (.inr ⟨f, hf, List.mem_cons_of_mem _ hmem⟩))⟩
        refine ⟨_, pairs_iff.2 ⟨fields, htokens, hplain, rfl⟩, ?_⟩
        rw [htext, hcount]
        simp [counted]
    · cases h
  · rintro ⟨pairs, hpairs, rfl⟩
    obtain ⟨fields, hfields, hplain, rfl⟩ := pairs_iff.1 hpairs
    have hsplit : (counted tokens.length (fields.flatMap ('\\' :: ·))).splitOn '\\' =
        [] :: ['o', 'r'] :: Nat.toDigits 10 tokens.length :: fields := by
      refine splitOn_eq_cons_iff.2 ⟨by simp [counted], ?_⟩
      simp only [List.forall_mem_cons]
      exact ⟨by simp, by decide, (isPlain_toDigits _).1, fun f hf => (hplain f hf).1⟩
    rw [tokens?, hsplit]
    simp [hfields]

/-- Pairs have no null character. -/
theorem Pairs.null_not_mem {tokens : List String} {text : List Char} (h : Pairs tokens text) :
    '\x00' ∉ text := by
  induction h with
  | nil => simp
  | cons hkey hvalue rest ih => simp [hkey.2, hvalue.2, ih]

theorem null_not_mem_counted (count : Nat) {text : List Char} (h : '\x00' ∉ text) :
    '\x00' ∉ counted count text := by
  simp [counted, (isPlain_toDigits count).2, h]

/-- The reader takes the filters off the front, and only what are filters. -/
theorem filters?_eq_some_iff {bytes rest : List UInt8} {tokens : List String} :
    filters? bytes = some (tokens, rest) ↔
      ∃ front, Filters tokens front ∧ bytes = front ++ rest := by
  constructor
  · intro h
    unfold filters? at h
    split at h
    · next rest' hsplit =>
        simp only [Option.some.injEq, Prod.mk.injEq] at h
        obtain ⟨rfl, rfl⟩ := h
        exact ⟨_, .none, by simpa using (terminated?_eq_some_iff.1 hsplit).1⟩
    · next front rest' _ hsplit =>
        obtain ⟨hbytes, hzero⟩ := terminated?_eq_some_iff.1 hsplit
        obtain ⟨tokens', htokens, hpair⟩ := Option.map_eq_some_iff.1 h
        simp only [Prod.mk.injEq] at hpair
        obtain ⟨rfl, rfl⟩ := hpair
        obtain ⟨text, htext, hread⟩ := Option.bind_eq_some_iff.1 htokens
        obtain rfl := decode?_eq_some_iff.1 htext
        rw [zero_mem_utf8_iff] at hzero
        obtain ⟨pairs, hpairs, rfl⟩ := (tokens?_eq_some_iff hzero).1 hread
        exact ⟨_, .some hpairs, by rw [hbytes]; simp⟩
    · cases h
  · rintro ⟨front, hfront, rfl⟩
    cases hfront with
    | none => rfl
    | @some tokens text hpairs =>
        have hnull := null_not_mem_counted tokens.length hpairs.null_not_mem
        have hzero : 0 ∉ utf8 (counted tokens.length text) := by rwa [zero_mem_utf8_iff]
        have hread := (tokens?_eq_some_iff hnull).2 ⟨text, hpairs, rfl⟩
        have hsplit : terminated? (utf8 (counted tokens.length text) ++ [0] ++ rest) =
            some (utf8 (counted tokens.length text), rest) :=
          terminated?_eq_some_iff.2 ⟨by simp, hzero⟩
        have hsome : utf8 (counted tokens.length text) ≠ [] := by
          simp [counted, utf8, String.utf8EncodeChar]
        rw [filters?, hsplit]
        split
        · next heq => simp_all
        · next heq =>
            simp only [Option.some.injEq, Prod.mk.injEq] at heq
            obtain ⟨rfl, rfl⟩ := heq
            simp [decode?_eq_some_iff.2 rfl, hread]
        · next heq => cases heq

/-- **The reader accepts exactly the grammar**, and leaves what follows the packet. -/
theorem parse?_eq_some_iff {bytes rest : List UInt8} {query : Query} :
    parse? bytes = some (query, rest) ↔
      ∃ packet, Written query packet ∧ bytes = packet ++ rest := by
  constructor
  · intro h
    unfold parse? at h
    split at h
    · next start region bytes =>
        split at h
        · next cursor rest' hsplit =>
            obtain ⟨hbytes, hzero⟩ := terminated?_eq_some_iff.1 hsplit
            split at h
            · next hvalid =>
                obtain ⟨hmagic, hascii⟩ := hvalid
                obtain ⟨⟨tokens, rest''⟩, htokens, hpair⟩ := Option.map_eq_some_iff.1 h
                simp only [Prod.mk.injEq] at hpair
                obtain ⟨rfl, rfl⟩ := hpair
                obtain ⟨front, hfront, rfl⟩ := filters?_eq_some_iff.1 htokens
                refine ⟨_, .packet region (fun b hb => ⟨?_, ?_⟩) hfront, ?_⟩
                · rintro rfl
                  exact hzero hb
                · simpa using List.all_eq_true.1 hascii b hb
                · simp [hmagic, hbytes, magic]
            · cases h
        · cases h
    · cases h
  · rintro ⟨packet, hpacket, rfl⟩
    cases hpacket with
    | @packet cursor filterBytes tokens region ascii filters =>
        have hzero : 0 ∉ cursor := fun hmem => (ascii 0 hmem).1 rfl
        have hascii : cursor.all (· < 0x80) = true :=
          List.all_eq_true.2 fun b hb => by simpa using (ascii b hb).2
        have hsplit : terminated? (cursor ++ 0 :: filterBytes ++ rest) =
            some (cursor, filterBytes ++ rest) :=
          terminated?_eq_some_iff.2 ⟨by simp, hzero⟩
        have hfilters : filters? (filterBytes ++ rest) = some (tokens, rest) :=
          filters?_eq_some_iff.2 ⟨filterBytes, filters, rfl⟩
        show parse? (0x31 :: region :: (cursor ++ 0 :: filterBytes ++ rest)) = _
        rw [parse?, hsplit]
        simp [magic, hascii, hfilters]

/-! ## the packets of queries -/

/-- What makes a query readable: a cursor in ASCII without null characters, and filters that are
pairs of plain keys and values. -/
structure IsReadable (query : Query) : Prop where
  cursor : ∀ c ∈ query.cursor.toList, c ≠ '\x00' ∧ c.toNat < 0x80
  filters : ∀ t ∈ query.filters, IsPair t

/-- What a query says on the wire: of the region only its value modulo 256 is left. -/
def onWire (query : Query) : Query :=
  { query with region := query.region % 256 }

/-- Tokens of pairs, put together, are the text of pairs. -/
theorem pairs_flatMap {tokens : List String} (h : ∀ t ∈ tokens, IsPair t) :
    Pairs tokens (tokens.flatMap String.toList) := by
  induction tokens with
  | nil => exact .nil
  | cons t tokens ih =>
      obtain ⟨⟨key, value, hkey, hvalue, rfl⟩, hrest⟩ := List.forall_mem_cons.1 h
      have htoken : (token key value).toList = '\\' :: key.toList ++ '\\' :: value.toList := by
        simp [token]
      rw [List.flatMap_cons, htoken]
      exact .cons hkey hvalue (ih hrest)

/-- The tokens of a packet, one after the other, are the UTF-8 of one text. -/
theorem flatMap_encode (tokens : List String) :
    tokens.flatMap encode = utf8 (tokens.flatMap String.toList) := by
  induction tokens with
  | nil => rfl
  | cons t tokens ih => rw [List.flatMap_cons, List.flatMap_cons, utf8_append, ih, encode_eq_utf8]

theorem filters_filterBytes {tokens : List String} (h : ∀ t ∈ tokens, IsPair t) :
    Filters tokens (filterBytes tokens) := by
  cases tokens with
  | nil => exact .none
  | cons t tokens =>
      have hcount : (token "or" (toString (t :: tokens).length)).toList =
          ['\\', 'o', 'r', '\\'] ++ Nat.toDigits 10 (t :: tokens).length := by
        simp [token]
      have hbytes : filterBytes (t :: tokens) =
          utf8 (counted (t :: tokens).length ((t :: tokens).flatMap String.toList)) ++ [0] := by
        rw [counted, utf8_append, ← hcount, ← encode_eq_utf8, ← flatMap_encode]
        rfl
      rw [hbytes]
      exact .some (pairs_flatMap h)

/-- The byte of a region stands for the region modulo 256. -/
theorem toNat_regionByte (region : Int) :
    ((UInt8.ofNat (region % 256).toNat).toNat : Int) = region % 256 := by
  have hsmall : (region % 256).toNat < 256 := by omega
  have hbyte : (UInt8.ofNat (region % 256).toNat).toNat = (region % 256).toNat :=
    UInt8.toNat_ofNat_of_lt hsmall
  omega

/-- The packet of a readable query is in the grammar. -/
theorem exists_written {query : Query} (h : query.IsReadable) :
    ∃ packet, query.toBytes = .ok packet ∧ Written query.onWire packet := by
  obtain ⟨cursor, hcursor, hback, hmap⟩ := asciiBytes_eq_ok fun c hc => (h.cursor c hc).2
  have hascii : ∀ b ∈ cursor, b ≠ 0 ∧ b < 0x80 := fun b hb => by
    rw [hmap] at hb
    obtain ⟨c, hc, rfl⟩ := List.mem_map.1 hb
    obtain ⟨hnull, hsmall⟩ := h.cursor c hc
    have hbyte : (UInt8.ofNat c.toNat).toNat = c.toNat :=
      UInt8.toNat_ofNat_of_lt (Nat.lt_trans hsmall (by decide))
    refine ⟨fun hzero => hnull ?_, by rwa [UInt8.lt_iff_toNat_lt, hbyte]⟩
    rw [hzero] at hbyte
    exact Char.toNat_inj.1 hbyte.symm
  have hpacket := Written.packet (UInt8.ofNat (query.region % 256).toNat) hascii
    (filters_filterBytes h.filters)
  rw [hback, toNat_regionByte] at hpacket
  refine ⟨_, ?_, hpacket⟩
  simp [toBytes, Packet.cstring, hcursor, Packet.byte, Except.map, magic]

/-- **The packet of a query is read as that query**, and two queries with the same packet say the
same: the same region modulo 256, the same cursor and the same tokens in the same order. -/
theorem written_toBytes (query : Query) (h : query.IsReadable) :
    ∃ packet, query.toBytes = .ok packet ∧ Written query.onWire packet ∧
      parse? packet = some (query.onWire, []) ∧
      ∀ other : Query, other.IsReadable → other.toBytes = .ok packet →
        other.onWire = query.onWire := by
  have hparse : ∀ {query : Query} {packet}, Written query packet →
      parse? packet = some (query, []) := fun hwritten =>
    parse?_eq_some_iff.2 ⟨_, hwritten, by simp⟩
  obtain ⟨packet, hpacket, hwritten⟩ := exists_written h
  refine ⟨packet, hpacket, hwritten, hparse hwritten, fun other hother hsame => ?_⟩
  obtain ⟨packet', hpacket', hwritten'⟩ := exists_written hother
  obtain rfl := Except.ok.inj (hsame.symm.trans hpacket')
  have hboth := (hparse hwritten').symm.trans (hparse hwritten)
  simpa using hboth

/-- A query with an empty value, a value beyond ASCII and a region above a byte. -/
theorem written_toBytes_beyondAscii :
    IsReadable ⟨"1.2.3.4:27015", ["\\map\\", "\\name\\é"], 511⟩ ∧
      ∃ packet, (⟨"1.2.3.4:27015", ["\\map\\", "\\name\\é"], 511⟩ : Query).toBytes = .ok packet ∧
        parse? packet = some (⟨"1.2.3.4:27015", ["\\map\\", "\\name\\é"], 255⟩, []) := by
  have hreadable : IsReadable ⟨"1.2.3.4:27015", ["\\map\\", "\\name\\é"], 511⟩ := by
    refine ⟨by simp, ?_⟩
    simp only [List.forall_mem_cons]
    exact ⟨⟨"map", "", by decide, by decide, rfl⟩,
      ⟨"name", "é", by decide, by decide, rfl⟩, by simp⟩
  obtain ⟨packet, hpacket, -, hparse, -⟩ := written_toBytes _ hreadable
  exact ⟨hreadable, packet, hpacket, hparse⟩

end Query

end ServerBrowser
