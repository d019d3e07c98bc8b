import CrashDump.Proofs.ExitCodes
import CrashDump.Proofs.GivenOptions
import CrashDump.Proofs.HexNumbers
import Mathlib.Data.List.TakeWhile

/-! # Values in captured memory

A pointer is the number that the bytes at its address write, least significant byte first. Reading
it loses nothing of them, and neither does the command that prints it: its digits are those of the
bytes, the last byte first. A text is what the bytes at its address spell before the first zero
byte. Reading fewer bytes gives as much of it as they hold, and reading more adds nothing once it
has ended.
-/
namespace CrashDump

namespace Dump
variable {d : Image} {m : Dump} {c : Cursor} {a n k : Int} {v : Nat} {source : Source}

/-! ## Pointers -/

theorem pointerSize_pos (m : Dump) : 0 < m.pointerSize := by
  rw [pointerSize]
  split <;> decide

/-- What a source gives of a pointer. -/
def pointerFrom (m : Dump) (source : Source) (d : Image) (a : Int) : Except Fault (Option Nat) :=
  match m.spanFrom source d a m.pointerSize with
  | .ok b => .ok (some (natOfBytes b.bytes))
  | .error (.unmapped _ _) => .ok none
  | .error f => .error f

theorem pointerFrom_of_ok {b : Image} (h : m.spanFrom source d a m.pointerSize = .ok b) :
    m.pointerFrom source d a = .ok (some (natOfBytes b.bytes)) := by
  rw [pointerFrom, h]

theorem pointerFrom_of_unmapped {x n : Int}
    (h : m.spanFrom source d a m.pointerSize = .error (.unmapped x n)) :
    m.pointerFrom source d a = .ok none := by
  rw [pointerFrom, h]

theorem readPointer_eq (hc : c.OpenOn d source) (hs : ∀ s ∈ m.segments, s.Stored) (a : Int) :
    m.readPointer a c = c.result (m.pointerFrom source d a) := by
  have hr := readMemory_eq_spanFrom hc hs a m.pointerSize
  rw [pointerFrom]
  simp only [readPointer, hr]
  cases hx : m.spanFrom source d a m.pointerSize with
  | ok b => rfl
  | error f => rcases fault_of_spanFrom hx with rfl | rfl | rfl | rfl | rfl <;> rfl

theorem pointerFrom_eq_some_iff : m.pointerFrom source d a = .ok (some v) ↔
    ∃ b, m.spanFrom source d a m.pointerSize = .ok b ∧ v = natOfBytes b.bytes := by
  rw [pointerFrom]
  cases hx : m.spanFrom source d a m.pointerSize with
  | ok b => simp [eq_comm]
  | error f => rcases fault_of_spanFrom hx with rfl | rfl | rfl | rfl | rfl <;> simp

theorem pointerFrom_eq_none_iff : m.pointerFrom source d a = .ok none ↔
    ∃ x n, m.spanFrom source d a m.pointerSize = .error (.unmapped x n) := by
  rw [pointerFrom]
  cases hx : m.spanFrom source d a m.pointerSize with
  | ok b => simp
  | error f => rcases fault_of_spanFrom hx with rfl | rfl | rfl | rfl | rfl <;> simp

/-- A pointer is the number that its bytes write, and absent just where they are. -/
structure ReadsPointer (m : Dump) (c : Cursor) (a : Int) : Prop where
  number : ∀ v, m.readPointer a c = .ok (some v) c ↔
    ∃ b, m.readMemory a m.pointerSize c = .ok b c ∧
      v = ((List.range m.pointerSize).map fun i => (b.byteAt i).toNat * 256 ^ i).sum
  lossless : ∀ v b, m.readPointer a c = .ok (some v) c → m.readMemory a m.pointerSize c = .ok b c →
    v < 256 ^ m.pointerSize ∧ bytesOfNat m.pointerSize v = b.bytes
  absent : m.readPointer a c = .ok none c ↔
    ∃ x n, m.readMemory a m.pointerSize c = .error (.unmapped x n) c

theorem readsPointer (hc : c.OpenOn d source) (hs : ∀ s ∈ m.segments, s.Stored) (a : Int) :
    m.ReadsPointer c a := by
  have hp := readPointer_eq hc hs a
  have hr := readMemory_eq_spanFrom hc hs a m.pointerSize
  have hlen : ∀ {b}, m.spanFrom source d a m.pointerSize = .ok b → b.bytes.length = m.pointerSize :=
    fun h => Int.ofNat_inj.mp (size_of_spanFrom hs h)
  constructor
  case number =>
    intro v
    rw [hp, hr, Cursor.result_eq_ok_iff, pointerFrom_eq_some_iff]
    refine exists_congr fun b => ?_
    rw [Cursor.result_eq_ok_iff]
    refine and_congr_right fun hb => ?_
    rw [natOfBytes_eq_sum, hlen hb]
    simp only [Image.getD_bytes]
  case lossless =>
    intro v b hv hb
    rw [hp, Cursor.result_eq_ok_iff, pointerFrom_eq_some_iff] at hv
    rw [hr, Cursor.result_eq_ok_iff] at hb
    obtain ⟨b', hb', rfl⟩ := hv
    obtain rfl := Except.ok.inj (hb.symm.trans hb')
    rw [← hlen hb]
    exact ⟨natOfBytes_lt _, bytesOfNat_natOfBytes _⟩
  case absent =>
    rw [hp, hr, Cursor.result_eq_ok_iff, pointerFrom_eq_none_iff]
    simp only [Cursor.result_eq_error_iff]

/-! ## Texts -/

/-- A text has a character for each byte before the first zero byte, for all bytes if none is
zero. -/
def Spells (bytes : List UInt8) (t : String) : Prop :=
  ∃ before after, bytes = before ++ after ∧ 0 ∉ before ∧ (∀ b ∈ after.head?, b = 0) ∧
    t.toList.map Char.toNat = before.map UInt8.toNat

theorem spells_textOf (bytes : List UInt8) : Spells bytes (textOf bytes) := by
  refine ⟨bytes.takeWhile (· ≠ 0), bytes.dropWhile (· ≠ 0), ?_, ?_, ?_, ?_⟩
  · exact List.takeWhile_append_dropWhile.symm
  · intro h
    simpa using List.mem_takeWhile_imp h
  · intro b hb
    have h := List.head?_dropWhile_not (· ≠ 0) bytes
    rw [hb] at h
    simpa using h
  · rw [textOf, String.toList_ofList, List.map_map]
    refine List.map_congr_left fun b _ => ?_
    have hb := b.toNat_lt
    exact char_toNat_ofNat (by omega)

theorem ne_zero_of_spells {bytes : List UInt8} {t : String} (h : Spells bytes t) :
    ∀ x ∈ t.toList, x.toNat ≠ 0 := by
  obtain ⟨before, after, -, hz, -, ht⟩ := h
  intro x hx h0
  have hm : x.toNat ∈ before.map UInt8.toNat := ht ▸ List.mem_map_of_mem hx
  obtain ⟨b, hb, hbx⟩ := List.mem_map.mp hm
  rw [h0] at hbx
  obtain rfl : b = 0 := UInt8.toNat_inj.mp hbx
  exact hz hb

theorem length_le_of_spells {bytes : List UInt8} {t : String} (h : Spells bytes t) :
    t.length ≤ bytes.length := by
  obtain ⟨before, after, rfl, -, -, ht⟩ := h
  have hl := congrArg List.length ht
  rw [List.length_map, List.length_map, String.length_toList] at hl
  rw [List.length_append]
  omega

/-- Fewer bytes spell a beginning of the text. -/
theorem textOf_take (bytes : List UInt8) (j : Nat) :
    textOf (bytes.take j) = String.ofList ((textOf bytes).toList.take j) := by
  rw [textOf, textOf, String.toList_ofList, ← List.map_take, List.take_takeWhile]

/-- A text that has ended goes no further. -/
theorem textOf_append {xs : List UInt8} (h : 0 ∈ xs) (ys : List UInt8) :
    textOf (xs ++ ys) = textOf xs := by
  have hne : ¬ (xs.takeWhile (· ≠ 0)).length = xs.length := by
    intro hl
    have hall := List.takeWhile_eq_self_iff.mp ((List.takeWhile_prefix _).eq_of_length hl)
    simpa using hall 0 h
  rw [textOf, textOf, List.takeWhile_append, if_neg hne]

/-- A part of a span that is read from its start on. -/
theorem spanIn_of_le {b : Image} (hk : 0 ≤ k) (hkn : k ≤ n) (h : m.spanIn d a n = .ok b) :
    ∃ b', m.spanIn d a k = .ok b' ∧ b'.bytes = b.bytes.take k.toNat := by
  cases ht : m.findSegment a with
  | none =>
    rw [spanIn_of_none (Int.le_trans hk hkn) ht] at h
    cases h
  | some t =>
    rw [spanIn_of_some (Int.le_trans hk hkn) ht] at h
    split_ifs at h with he hoff hr hf
    cases h
    refine ⟨d.slice (t.fileOffset a).toNat k.toNat, ?_, ?_⟩
    · rw [spanIn_of_some hk ht, if_neg (by omega), if_neg hoff, if_neg (by omega), if_pos (by omega)]
    · rw [Image.bytes_slice, Image.bytes_slice, List.take_take, Nat.min_eq_left (by omega)]

/-- What texts at an address come to, by the bytes that can be read there. -/
structure ReadsTexts (m : Dump) (c : Cursor) (a : Int) : Prop where
  spelled : ∀ n b, m.readMemory a n c = .ok b c →
    ∃ t, m.readText a n c = .ok t c ∧ Spells b.bytes t ∧ (∀ x ∈ t.toList, x.toNat ≠ 0) ∧
      t.length ≤ n
  failed : ∀ n f, m.readMemory a n c = .error f c →
    (f = .unmapped a n ∨ f = .negativeCount n) ∧ m.readText a n c = .ok "" c ∨
      (f = .tooFar ∨ f = .tooMany) ∧ m.readText a n c = .error f c
  beginning : ∀ k n b, 0 ≤ k → k ≤ n → m.readMemory a n c = .ok b c →
    ∃ t, m.readText a n c = .ok t c ∧
      m.readText a k c = .ok (String.ofList (t.toList.take k.toNat)) c
  ended : ∀ k n b b', 0 ≤ k → k ≤ n → m.readMemory a k c = .ok b' c → 0 ∈ b'.bytes →
    m.readMemory a n c = .ok b c → m.readText a n c = m.readText a k c

/-- Texts read at one address agree with each other and with the bytes there. -/
theorem readsTexts (hm : (parse .memory d).result = .ok m) (hc : c.OpenOn d .memory) (a : Int) :
    m.ReadsTexts c a := by
  have hs := stored_of_parse hm
  have hr := readMemory_eq hc hs a
  constructor
  case spelled =>
    intro n b hb
    have ht := spells_textOf b.bytes
    have hl := length_le_of_spells ht
    have hn : (b.bytes.length : Int) = n := by
      rw [hr, Cursor.result_eq_ok_iff] at hb
      exact size_of_spanIn hs hb
    exact ⟨_, readText_of_ok hb, ht, ne_zero_of_spells ht, by omega⟩
  case failed =>
    intro n f hf
    have hx := hf
    rw [hr, Cursor.result_eq_error_iff] at hx
    -- a text is empty where the address or the count is wrong, and breaks off where memory is not
    -- to blame
    rcases fault_of_spanIn hx with h | h
    · refine .inl ⟨h, readText_of_error ?_ hf⟩
      rcases h with rfl | rfl <;> rfl
    · refine .inr ⟨h, readText_of_fatal ?_ hf⟩
      rw [hc.source]
      rcases h with rfl | rfl <;> rfl
  case beginning =>
    intro k n b hk hkn hb
    have hx := hb
    rw [hr, Cursor.result_eq_ok_iff] at hx
    obtain ⟨b', hb', hbytes⟩ := spanIn_of_le hk hkn hx
    have hk' : m.readMemory a k c = .ok b' c := by rw [hr, hb']; rfl
    refine ⟨_, readText_of_ok hb, ?_⟩
    rw [readText_of_ok hk', hbytes, textOf_take]
  case ended =>
    intro k n b b' hk hkn hb' hz hb
    have hx := hb
    have hx' := hb'
    rw [hr, Cursor.result_eq_ok_iff] at hx hx'
    obtain ⟨b'', hb'', hbytes⟩ := spanIn_of_le hk hkn hx
    obtain rfl := Except.ok.inj (hx'.symm.trans hb'')
    rw [readText_of_ok hb, readText_of_ok hb', ← List.take_append_drop k.toNat b.bytes, ← hbytes,
      textOf_append hz]

/-- A dump of a 64-bit process that captures a pointer and a text. -/
def smallProcess : Image :=
  ⟨(Record.pack (⟨Header.magic, 0xA793, 0, 2, 32, 0, 0, 0⟩ : Header) ++
    Record.pack (⟨7, 48, 56⟩ : DirectoryEntry) ++
    Record.pack (⟨5, 20, 104⟩ : DirectoryEntry) ++
    Record.pack (⟨9, 6, 0, 1, 1, 10, 0, 19045, 2, 0, 0, 0, #v[0, 0]⟩ : SystemRecord) ++
    Record.pack (1 : UInt32) ++
    Record.pack (⟨0x1000, ⟨16, 124⟩⟩ : MemoryRange) ++
    [0xEF, 0xCD, 0xAB, 0, 0, 0, 0, 0x80, 72, 105, 0, 33, 33, 33, 33, 33]).toArray⟩

theorem smallProcess_layout : Acceptable smallProcess ∧
    (inPlace smallProcess).segments = [⟨0x1000, 16, 124⟩] ∧
    (inPlace smallProcess).pointerFrom (.file .usual) smallProcess 0x1000 =
      .ok (some 0x8000000000ABCDEF) ∧
    (inPlace smallProcess).spanIn smallProcess 0x1008 8 = .ok (smallProcess.slice 132 8) ∧
    textOf (smallProcess.slice 132 8).bytes = "Hi" := by
  decide +kernel

theorem smallProcess_texts : ∃ m c, (parse .memory smallProcess).result = .ok m ∧
    c.OpenOn smallProcess .memory ∧
    m.readMemory 0x1008 8 c = .ok (smallProcess.slice 132 8) c ∧
    m.readText 0x1008 8 c = .ok "Hi" c ∧ m.ReadsTexts c 0x1008 := by
  have hm : (parse .memory smallProcess).result = .ok (inPlace smallProcess) :=
    parse_of_acceptable smallProcess_layout.1
  have hc := Cursor.openOn_start smallProcess .memory
  have hb : (inPlace smallProcess).readMemory 0x1008 8 (Cursor.start smallProcess .memory) =
      .ok (smallProcess.slice 132 8) (Cursor.start smallProcess .memory) := by
    rw [readMemory_eq hc (stored_of_parse hm), smallProcess_layout.2.2.2.1]
    rfl
  have ht := readText_of_ok hb
  rw [smallProcess_layout.2.2.2.2] at ht
  exact ⟨_, _, hm, hc, hb, ht, readsTexts hm hc 0x1008⟩

end Dump

/-! ## The command for a pointer -/

namespace Request
variable {isDirectory : String → Bool} {file text : String} {a : Int}

theorem ofCommandLine_pointer
    (hf : ¬ (Char.ofNat 0 ∈ (tidyPath file).toList ∨ isDirectory (tidyPath file)))
    (ht : IntegerLiteral.parse? text = some a) :
    ofCommandLine isDirectory ["pointer", "-f", file, "-a", text] =
      .ok ⟨tidyPath file, .pointer a⟩ := by
  have hgiven : OptionName.AllGiven [(.file, file), (.address, text)]
      ["-f", file, "-a", text] := .cons .short (.cons .short .nil)
  have hallowed : ∀ x ∈ [(OptionName.file, file), (.address, text)],
      x.1 ∈ Verb.pointer.options := by simp [Verb.options]
  rw [ofCommandLine_given rfl hgiven hallowed, Settings.ofArguments_pair _ (by decide),
    Settings.set_file hf]
  exact congrArg (· >>= _) (Settings.set_address isDirectory ht _)

end Request

namespace Outcome
variable {room : Room} {d : Image} {m : Dump} {c : Cursor} {a : Int} {v : Nat}

/-- What shows a pointer: its digits, two for each byte and the last byte first, or a failure where
there is none. -/
structure ShowsPointer (o : Outcome) (m : Dump) (c : Cursor) (a : Int) : Prop where
  exits : o.ending = .exit 0 ↔ ∃ v, m.readPointer a c = .ok (some v) c
  shown : ∀ v, m.readPointer a c = .ok (some v) c → ∃ b ds,
    m.readMemory a m.pointerSize c = .ok b c ∧
      o.printed = [.text (String.ofList ('0' :: 'x' :: ds))] ∧
      ds = b.bytes.reverse.flatMap Hex.byte ∧ ds.length = 2 * m.pointerSize ∧
      ∀ x ∈ ds, x ∈ Hex.lowerDigits
  fails : (∀ v, m.readPointer a c ≠ .ok (some v) c) → o.ending = .exit 1 ∧ o.printed = []

theorem ShowsPointer.after {o : Outcome} (h : o.ShowsPointer m c a) (log : List LogLine) :
    (after log o).ShowsPointer m c a := ⟨h.exits, h.shown, h.fails⟩

/-- A pointer comes to the same on every console. -/
theorem ShowsPointer.shownOn {o : Outcome} (h : o.ShowsPointer m c a) (k : Console) :
    (o.shownOn k).ShowsPointer m c a := by
  have hx : o.shownOn k = o := by
    by_cases hv : ∃ v, m.readPointer a c = .ok (some v) c
    · obtain ⟨v, hv⟩ := hv
      obtain ⟨b, ds, -, hp, -, -, hds⟩ := h.shown v hv
      refine shownOn_eq_self fun p hm => ?_
      obtain rfl := List.mem_singleton.mp (hp ▸ hm)
      exact Console.show?_text_of_isPlain (Markup.isPlain_of_isInert (Markup.isInert_marked hds))
    · exact shownOn_of_silent (h.fails (not_exists.mp hv)).2 k
  rw [hx]
  exact h

section Commands
variable (hs : ∀ s ∈ m.segments, s.Stored)
include hs

theorem ofPointer_of_some (h : m.pointerFrom (.file room) d a = .ok (some v)) :
    ofPointer room d m a = print (.text (Hex.wide v (2 * m.pointerSize))) := by
  rw [ofPointer, Dump.readPointer_eq (Cursor.openOn_start d (.file room)) hs, h]
  rfl

theorem ofPointer_of_none (h : m.pointerFrom (.file room) d a = .ok none) :
    ofPointer room d m a = fail s!"Could not read a pointer at {Hex.text a}" := by
  rw [ofPointer, Dump.readPointer_eq (Cursor.openOn_start d (.file room)) hs, h]
  rfl

/-- A pointer that is not stored out of reach is shown or found missing. -/
theorem showsPointer_ofPointer (hc : c.OpenOn d (.file room))
    (hn : ∀ s, m.Spans a m.pointerSize s → s.fileOffset a < Cursor.reach) :
    (ofPointer room d m a).ShowsPointer m c a := by
  have hp := Dump.readPointer_eq hc hs a
  have hr := Dump.readMemory_eq_spanFrom hc hs a m.pointerSize
  -- within reach there are the bytes of a pointer or none
  rcases Dump.spanFrom_of_near (d := d) (.file room) (Int.natCast_nonneg _) m.pointerSize_le hn
    with ⟨b, hb⟩ | hb
  · have hlen : b.bytes.length = m.pointerSize := Int.ofNat_inj.mp (Dump.size_of_spanFrom hs hb)
    have hv := Dump.pointerFrom_of_ok hb
    rw [hb] at hr
    rw [hv] at hp
    rw [ofPointer_of_some hs hv]
    constructor
    case exits => exact iff_of_true rfl ⟨_, hp⟩
    case shown =>
      intro v _
      refine ⟨b, _, hr, ?_, rfl, ?_, ?_⟩
      · have hne : b.bytes ≠ [] := List.ne_nil_of_length_pos (hlen ▸ m.pointerSize_pos)
        rw [← hlen, Hex.wide_natOfBytes hne]
        rfl
      · rw [Hex.length_flatMap_byte, List.length_reverse, hlen]
      · intro x hx
        obtain ⟨_, -, hx⟩ := List.mem_flatMap.mp hx
        exact Hex.mem_byte hx
    case fails => exact fun h => absurd hp (h _)
  · have hv := Dump.pointerFrom_of_unmapped hb
    rw [hv] at hp
    have hnone : ∀ v, m.readPointer a c ≠ .ok (some v) c := by
      intro v h
      cases hp.symm.trans h
    rw [ofPointer_of_none hs hv]
    constructor
    case exits => exact iff_of_false nofun (not_exists.mpr hnone)
    case shown => exact fun v h => absurd h (hnone v)
    case fails => exact fun _ => ⟨rfl, rfl⟩

end Commands

theorem isDirectory_dump (w : Folder) : w.isDirectory "dump.dmp" = false := by
  rw [Folder.isDirectory_eq]
  rfl

/-- A pointer read from a buffer is exact. One printed from a file is so too, for any text that
writes its address, and every address is written by some text. -/
theorem pointer_exact (d : Image) (m : Dump) (a : Int) :
    ((Dump.parse .memory d).result = .ok m → ∀ c, c.OpenOn d .memory → m.ReadsPointer c a) ∧
      ∀ h : Host, (Dump.parse (.file h.room) d).result = .ok m →
        (∀ s ∈ m.segments, s.file + s.size < Cursor.reach) →
        ∀ (w : Folder) (c : Cursor), w.contents "dump.dmp" = .ok d → c.OpenOn d (.file h.room) →
          (∃ text, IntegerLiteral.parse? text = some a) ∧
            ∀ text, IntegerLiteral.parse? text = some a →
              (inFolder h w ["pointer", "-f", "dump.dmp", "-a", text]).ShowsPointer m c a := by
  constructor
  · intro hm c hc
    exact Dump.readsPointer hc (Dump.stored_of_parse hm) a
  · intro h hm hf w c hw hc
    refine ⟨⟨_, IntegerLiteral.parse?_signed a⟩, ?_⟩
    intro text ht
    have hpath : tidyPath "dump.dmp" = "dump.dmp" := rfl
    have hp : ¬ (Char.ofNat 0 ∈ (tidyPath "dump.dmp").toList ∨
        w.isDirectory (tidyPath "dump.dmp")) := by
      rw [hpath, isDirectory_dump]
      decide
    have ho : ofRequest h.room ⟨tidyPath "dump.dmp", .pointer a⟩
          (w.contents (tidyPath "dump.dmp")) =
        after ((Dump.parse (.file h.room) d).notices.map LogLine.ofNotice)
          (ofPointer h.room d m a) := by
      simp only [hpath, hw, ofRequest, hm]
      rfl
    rw [inFolder_of_request (Request.ofCommandLine_pointer hp ht), ho]
    exact ((showsPointer_ofPointer (Dump.stored_of_parse hm) hc fun s hs =>
      Dump.fileOffset_lt_of_spans hf hs).after _).shownOn _

theorem smallProcess_pointer : ∃ m, (Dump.parse .memory Dump.smallProcess).result = .ok m ∧
    (Dump.parse (.file .usual) Dump.smallProcess).result = .ok m ∧
    (∀ s ∈ m.segments, s.file + s.size < Cursor.reach) ∧
    (folderOf Dump.smallProcess).contents "dump.dmp" = .ok Dump.smallProcess ∧
    IntegerLiteral.parse? "0x1000" = some 0x1000 ∧
    ∃ c c', c.OpenOn Dump.smallProcess .memory ∧ c'.OpenOn Dump.smallProcess (.file .usual) ∧
      m.readPointer 0x1000 c' = .ok (some 0x8000000000ABCDEF) c' ∧ m.ReadsPointer c 0x1000 ∧
      (inFolder .usual (folderOf Dump.smallProcess)
        ["pointer", "-f", "dump.dmp", "-a", "0x1000"]).ShowsPointer m c' 0x1000 := by
  have hm (source : Source) : (Dump.parse source Dump.smallProcess).result =
      .ok (Dump.inPlace Dump.smallProcess) := Dump.parse_of_acceptable Dump.smallProcess_layout.1
  have hf : ∀ s ∈ (Dump.inPlace Dump.smallProcess).segments, s.file + s.size < Cursor.reach := by
    rw [Dump.smallProcess_layout.2.1]
    decide
  have hw : (folderOf Dump.smallProcess).contents "dump.dmp" = .ok Dump.smallProcess := rfl
  have ht : IntegerLiteral.parse? "0x1000" = some 0x1000 := by decide
  have hc := Cursor.openOn_start Dump.smallProcess .memory
  have hc' := Cursor.openOn_start Dump.smallProcess (.file .usual)
  obtain ⟨hread, hshown⟩ := pointer_exact Dump.smallProcess (Dump.inPlace Dump.smallProcess) 0x1000
  refine ⟨_, hm .memory, hm _, hf, hw, ht, _, _, hc, hc', ?_, hread (hm .memory) _ hc,
    (hshown .usual (hm _) hf _ _ hw hc').2 _ ht⟩
  rw [Dump.readPointer_eq hc' (Dump.stored_of_parse (hm (.file .usual))),
    Dump.smallProcess_layout.2.2.1]
  rfl

end Outcome

end CrashDump
