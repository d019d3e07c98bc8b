import CrashDump.Proofs.HexNumbers
import CrashDump.Proofs.PackedRecords
import CrashDump.Proofs.SpanReads
import CrashDump.Report.Table

/-! # Numbers read back from tables

A number in a table is a literal of itself, whichever of its three forms it has there. So each row
of a table tells the numbers of its record, and records that are numbers only are recovered from
their rows.
-/
namespace CrashDump

open IntegerLiteral

/-! ## Written numbers -/

/-- The text is read as the number. -/
def ReadsAs (text : String) (v : Int) : Prop := Settings.integer text = .ok v

section Numbers
variable {base width n : Nat} {cs mark : List Char} {v : Int}

theorem readsAs_of_bare (h : Bare cs v) : ReadsAs (String.ofList cs) v :=
  integer_eq_ok_iff.mpr (parse?_of_writes (writes_of_bare h))

theorem hexMark : Mark ['0', 'x'] 16 := .letter (by decide)

/-- Digits of either case are a literal after a mark, also with zeros in front of them. -/
theorem bare_of_numeral {f : Char → Char} (hm : Mark mark base) (h10 : base ≠ 10) (hw : 0 < width)
    (h : Numeral base width n cs) (hf : ∀ k < base, IsDigit base k (f (Nat.digitChar k))) :
    Bare (mark ++ cs.map f) n := by
  obtain ⟨ks, rfl, hl, hk, hn⟩ := h
  have hne : ks ≠ [] := List.ne_nil_of_length_pos (hl.symm ▸ hw)
  have hd := digits_map hne (f := f ∘ Nat.digitChar) fun k hkm => hf k (hk k hkm)
  rw [List.map_map]
  exact ⟨[], _, n, rfl, ⟨mark, base, _, ks, rfl, hm, .group hd, fun h => absurd h h10, hn⟩, .none⟩

theorem readsAs_wide (n width : Nat) : ReadsAs (Hex.wide n width) n := by
  have h := bare_of_numeral (f := id) hexMark (by decide) (by omega)
    (Hex.numeral_padded width n) fun k hk => ⟨hk, .inl rfl⟩
  rw [List.map_id] at h
  exact readsAs_of_bare h

theorem readsAs_text (n : Nat) : ReadsAs (Hex.text n) n := readsAs_wide n 0

theorem readsAs_text_int (h : 0 ≤ v) : ReadsAs (Hex.text v) v := by
  obtain ⟨n, rfl⟩ := Int.eq_ofNat_of_zero_le h
  exact readsAs_text n

theorem readsAs_word (w : UInt32) : ReadsAs (Hex.word w) w.toNat :=
  readsAs_of_bare (bare_of_numeral hexMark (by decide) (by omega) (Hex.numeral_padded 8 w.toNat)
    fun _ hk => ⟨hk, .inr rfl⟩)

/-- Only decimal texts have a greatest length, and a word stays below it. -/
theorem readsAs_toString (w : UInt32) : ReadsAs (toString w.toNat) w.toNat := by
  have hlt : w.toNat < 10 ^ 10 := w.toNat_lt.trans (by decide)
  have hl := (Nat.length_toDigits_le_iff (by decide) (by decide)).mpr hlt
  rw [Nat.toString_eq_ofList_toDigits]
  exact readsAs_of_bare (bare_of_spells .none .decimal (spells_toDigits (by decide) w.toNat)
    fun _ => hl.trans (by decide))

/-- The text that a width gives a number: its own digits, with zeros before them where they are
fewer than the width asks for. A width that no field has is refused. -/
structure Hex.FieldReadsBack (v width : Nat) : Prop where
  refused : ∀ room, 2 ^ 63 ≤ width → field room (some v) width = .error .invalid
  written : width < 2 ^ 63 → ∃ ds, let s := String.ofList ('0' :: 'x' :: ds)
    ReadsAs s v ∧ Numeral 16 (max width (Nat.log 16 v + 1)) v ds ∧
    ∀ room, field room (some v) width = if room.limit ≤ s.length then .error .noRoom else .ok s

theorem Hex.fieldReadsBack (v width : Nat) : FieldReadsBack v width where
  refused room h := by
    rw [field, fieldWidth_of_limit_le h]
    rfl
  written h := by
    have hn := numeral_padded width v
    have ht : width ≤ (wide v width).length := by
      rw [wide, String.length_ofList, List.length_cons, List.length_cons, hn.length_eq]
      omega
    refine ⟨padded v width, readsAs_wide v width, hn, fun room => ?_⟩
    -- where there is no room for the field, there is none for the text
    rw [field, fieldWidth_of_lt_limit h]
    split_ifs with hr hs hs
    · rfl
    · exact absurd (hr.trans ht) hs
    · exact if_pos hs
    · exact if_neg hs

end Numbers

/-! ## Columns -/

/-- A column: its name, and what a cell in it says of a record. -/
structure Column (α : Type) where
  name : String
  Says : α → String → Prop

namespace Column
variable {α : Type}

/-- The cell is read back as a number of the record. -/
def number (name : String) (value : α → Int) : Column α :=
  ⟨name, fun r cell => ReadsAs cell (value r)⟩

/-- The cell is no number. -/
def words (name : String) : Column α := ⟨name, fun _ _ => True⟩

/-- One cell a column. -/
def Row (columns : List (Column α)) (r : α) (row : List String) : Prop :=
  List.Forall₂ (fun c cell => c.Says r cell) columns row

end Column

namespace Table
variable {α : Type} {t : Table} {columns : List (Column α)} {rs : List α}

/-- One row a record, in the order of the records. -/
def Lists (t : Table) (columns : List (Column α)) (rs : List α) : Prop :=
  t.columns = columns.map (·.name) ∧ List.Forall₂ (Column.Row columns) rs t.rows

theorem lists_of_rows {row : α → List String} (hn : t.columns = columns.map (·.name))
    (hr : t.rows = rs.map row) (h : ∀ r ∈ rs, Column.Row columns r (row r)) :
    t.Lists columns rs := by
  refine ⟨hn, ?_⟩
  rw [hr, List.forall₂_map_right_iff, List.forall₂_same]
  exact h

/-- Records that each row gives back are given back by the table. -/
theorem Lists.mapM_rows {f : List String → Option α} (h : t.Lists columns rs)
    (hf : ∀ r row, Column.Row columns r row → f row = some r) : t.rows.mapM f = some rs := by
  obtain ⟨title, names, rows⟩ := t
  obtain ⟨-, hrows⟩ : _ ∧ List.Forall₂ (Column.Row columns) rs rows := h
  dsimp only
  induction hrows with
  | nil => rfl
  | cons hrow _ ih =>
    rw [List.mapM_cons, hf _ _ hrow, ih]
    rfl

end Table

/-! ## Records -/

open Column

def DirectoryEntry.columns : List (Column DirectoryEntry) := [
  number "StreamType" fun e => e.tag.toNat,
  words "Name",
  number "Rva" fun e => e.location.rva.toNat,
  number "DataSize" fun e => e.location.dataSize.toNat]

def Thread.columns : List (Column Thread) := [
  number "ThreadId" fun t => t.threadId.toNat,
  number "SuspendCount" fun t => t.suspendCount.toNat,
  number "PriorityClass" fun t => t.priorityClass.toNat,
  number "Priority" fun t => t.priority.toNat,
  number "Teb" fun t => t.teb.toNat]

/-- Nothing, or four halves of words with points between them. -/
def FileVersion.Written (v : FileVersion) (cell : String) : Prop :=
  (cell = "" ↔ v.signature = 0) ∧
  (v.signature ≠ 0 → ∃ a b c d : Nat, cell = s!"{a}.{b}.{c}.{d}" ∧
    a * 65536 + b = v.fileVersionMS.toNat ∧ c * 65536 + d = v.fileVersionLS.toNat ∧
    a < 65536 ∧ b < 65536 ∧ c < 65536 ∧ d < 65536)

def Module.columns : List (Column Module) := [
  words "Module name",
  number "BaseAddress" fun x => x.record.base.toNat,
  number "Size" fun x => x.record.size.toNat,
  number "EndAddress" fun x => x.record.endAddress,
  number "Timestamp" fun x => x.record.timeDateStamp.toNat,
  ⟨"Version", fun x => x.record.version.Written⟩]

def Segment.columns : List (Column Segment) := [
  number "VA Start" (·.start),
  number "RVA" (·.file),
  number "Size" (·.size)]

def Region.columns : List (Column Region) := [
  number "BaseAddress" fun r => r.base.toNat,
  number "AllocationBase" fun r => r.allocationBase.toNat,
  words "AllocationProtect",
  number "RegionSize" fun r => r.size.toNat,
  words "State",
  words "Protect",
  words "Type"]

def Handle.columns : List (Column Handle) := [
  number "Handle" fun h => h.record.handle.toNat,
  words "TypeName",
  words "ObjectName",
  number "Attributes" fun h => h.record.attributes.toNat,
  number "GrantedAccess" fun h => h.record.grantedAccess.toNat,
  number "HandleCount" fun h => h.record.handleCount.toNat,
  number "PointerCount" fun h => h.record.pointerCount.toNat]

/-- Numbers in brackets with commas between them. -/
def ReadsAsList (text : String) (vs : List Int) : Prop :=
  ∃ cells, text = "[" ++ ", ".intercalate cells ++ "]" ∧ (∀ c ∈ cells, ',' ∉ c.toList) ∧
    List.Forall₂ ReadsAs cells vs

def ExceptionInfo.columns : List (Column ExceptionInfo) := [
  number "ThreadId" fun e => e.threadId.toNat,
  number "ExceptionCode" fun e => e.record.code.toNat,
  number "ExceptionFlags" fun e => e.record.flags.toNat,
  number "ExceptionRecord" fun e => e.record.nested.toNat,
  number "ExceptionAddress" fun e => e.record.address.toNat,
  ⟨"ExceptionInformation", fun e cell => ReadsAsList cell
    ((e.record.parameters.toList.take (min e.record.parameterCount.toNat 15)).map
      fun p => (p.toNat : Int))⟩]

/-- The fields of the record, each with its name. -/
def MiscInfo.fields (r : MiscInfo) : List (String × UInt32) := [
  ("SizeOfInfo", r.infoSize),
  ("Flags1", r.flags1),
  ("ProcessId", r.processId),
  ("ProcessCreateTime", r.createTime),
  ("ProcessUserTime", r.userTime),
  ("ProcessKernelTime", r.kernelTime),
  ("ProcessorMaxMhz", r.maxMhz),
  ("ProcessorCurrentMhz", r.currentMhz),
  ("ProcessorMhzLimit", r.mhzLimit),
  ("ProcessorMaxIdleState", r.maxIdleState),
  ("ProcessorCurrentIdleState", r.currentIdleState)]

def MiscInfo.columns : List (Column (String × UInt32)) := [
  ⟨"Field", fun f cell => cell = f.1⟩,
  number "Value" fun f => f.2.toNat]

/-- A segment is what its row says. -/
def Segment.ofRow? : List String → Option Segment
  | [start, file, size] => do
    let start ← (Settings.integer start).toOption
    let file ← (Settings.integer file).toOption
    let size ← (Settings.integer size).toOption
    return ⟨start, size, file⟩
  | _ => none

/-- A directory entry is what its row says, where the name of the stream adds nothing. -/
def DirectoryEntry.ofRow? : List String → Option DirectoryEntry
  | [tag, _, rva, size] => do
    let tag ← (Settings.integer tag).toOption
    let rva ← (Settings.integer rva).toOption
    let size ← (Settings.integer size).toOption
    return ⟨.ofNat tag.toNat, ⟨.ofNat size.toNat, .ofNat rva.toNat⟩⟩
  | _ => none

theorem Segment.ofRow?_of_row {s : Segment} {row : List String} (h : Row columns s row) :
    ofRow? row = some s := by
  rcases h with - | ⟨hstart, - | ⟨hfile, - | ⟨hsize, ⟨⟩⟩⟩⟩
  have hstart : Settings.integer _ = .ok s.start := hstart
  have hfile : Settings.integer _ = .ok s.file := hfile
  have hsize : Settings.integer _ = .ok s.size := hsize
  rw [ofRow?, hstart, hfile, hsize]
  rfl

theorem DirectoryEntry.ofRow?_of_row {e : DirectoryEntry} {row : List String}
    (h : Row columns e row) : ofRow? row = some e := by
  rcases h with - | ⟨htag, - | ⟨-, - | ⟨hrva, - | ⟨hsize, ⟨⟩⟩⟩⟩⟩
  have htag : Settings.integer _ = .ok (e.tag.toNat : Int) := htag
  have hrva : Settings.integer _ = .ok (e.location.rva.toNat : Int) := hrva
  have hsize : Settings.integer _ = .ok (e.location.dataSize.toNat : Int) := hsize
  rw [ofRow?, htag, hrva, hsize]
  have hback : (⟨.ofNat e.tag.toNat, ⟨.ofNat e.location.dataSize.toNat,
      .ofNat e.location.rva.toNat⟩⟩ : DirectoryEntry) = e := by
    simp only [UInt32.ofNat_toNat]
  exact congrArg some hback

/-! ## Versions and parameters -/

theorem FileVersion.written (v : FileVersion) : v.Written
    (Wording.fileVersion v.signature.toNat v.fileVersionMS.toNat v.fileVersionLS.toNat) := by
  have hms := v.fileVersionMS.toNat_lt
  have hls := v.fileVersionLS.toNat_lt
  by_cases h : v.signature = 0
  · rw [Wording.fileVersion, h, if_pos (by rfl)]
    exact ⟨iff_of_true rfl h, fun hne => absurd h hne⟩
  · have hne : ¬ (v.signature.toNat : Int) = 0 := fun h0 =>
      h (UInt32.toNat_inj.mp (Int.natCast_eq_zero.mp h0))
    have hdot : toString "." ≠ "" := by decide
    rw [Wording.fileVersion, if_neg hne]
    refine ⟨iff_of_false (by simp [hdot]) h, fun _ => ⟨v.fileVersionMS.toNat / 65536,
      v.fileVersionMS.toNat % 65536, v.fileVersionLS.toNat / 65536,
      v.fileVersionLS.toNat % 65536, rfl, ?_⟩⟩
    omega

/-- No digit and no mark is a comma. -/
theorem comma_notMem_text (n : Nat) : ',' ∉ (Hex.text n).toList := by
  rw [Hex.text, Hex.wide, String.toList_ofList]
  rintro (_ | ⟨_, _ | ⟨_, h⟩⟩)
  exact absurd ((Hex.numeral_padded 0 n).le_code (by decide) h) (by decide)

theorem readsAsList_text (ps : List UInt64) : ReadsAsList
    ("[" ++ ", ".intercalate (ps.map fun p => Hex.text p.toNat) ++ "]")
    (ps.map fun p => (p.toNat : Int)) := by
  refine ⟨_, rfl, ?_, ?_⟩
  · rintro c hc
    obtain ⟨p, -, rfl⟩ := List.mem_map.mp hc
    exact comma_notMem_text p.toNat
  · rw [List.forall₂_map_left_iff, List.forall₂_map_right_iff, List.forall₂_same]
    exact fun p _ => readsAs_text p.toNat

theorem ExceptionRecord.information_eq (r : ExceptionRecord) :
    r.information = r.parameters.toList.take (min r.parameterCount.toNat 15) := by
  rw [information, List.take_eq_take_min, Vector.length_toList]

/-! ## Tables -/

namespace Table

theorem streams_lists (m : Dump) : (streams m).Lists DirectoryEntry.columns m.directory :=
  lists_of_rows rfl rfl fun _ _ =>
    .cons (readsAs_text _) (.cons trivial (.cons (readsAs_text _) (.cons (readsAs_text _) .nil)))

theorem threads_lists (m : Dump) : (threads m).Lists Thread.columns m.threads :=
  lists_of_rows rfl rfl fun _ _ =>
    .cons (readsAs_text _) (.cons (readsAs_toString _) (.cons (readsAs_toString _)
      (.cons (readsAs_toString _) (.cons (readsAs_text _) .nil))))

theorem modules_lists (m : Dump) : (modules m).Lists Module.columns m.modules :=
  lists_of_rows rfl rfl fun x _ =>
    .cons trivial (.cons (readsAs_wide _ 8) (.cons (readsAs_text _) (.cons (readsAs_wide _ 8)
      (.cons (readsAs_text _) (.cons x.record.version.written .nil)))))

theorem segments_lists {m : Dump} (hs : ∀ s ∈ m.segments, s.Stored) :
    (segments m).Lists Segment.columns m.segments :=
  lists_of_rows rfl rfl fun s hm =>
    have h := hs s hm
    .cons (readsAs_text_int h.start) (.cons (readsAs_text_int h.file)
      (.cons (readsAs_text_int h.size.le) .nil))

theorem readsAs_allocationBase (w : UInt64) :
    ReadsAs (if w = 0 then "0" else Hex.text w.toNat) w.toNat := by
  split_ifs with h
  · subst h
    exact readsAs_toString 0
  · exact readsAs_text _

theorem regions_lists (m : Dump) : (regions m).Lists Region.columns m.regions :=
  lists_of_rows rfl rfl fun r _ =>
    .cons (readsAs_text _) (.cons (readsAs_allocationBase r.allocationBase) (.cons trivial
      (.cons (readsAs_text _) (.cons trivial (.cons trivial (.cons trivial .nil))))))

theorem handles_lists (m : Dump) : (handles m).Lists Handle.columns m.handles :=
  lists_of_rows rfl rfl fun _ _ =>
    .cons (readsAs_text _) (.cons trivial (.cons trivial (.cons (readsAs_word _)
      (.cons (readsAs_text _) (.cons (readsAs_toString _) (.cons (readsAs_toString _) .nil))))))

theorem exception_lists (e : ExceptionInfo) : (exception e).Lists ExceptionInfo.columns [e] := by
  have hlist := readsAsList_text e.record.information
  rw [e.record.information_eq] at hlist
  refine ⟨rfl, .cons ?_ .nil⟩
  refine .cons (readsAs_text _) (.cons (readsAs_text _) (.cons (readsAs_text _)
    (.cons (readsAs_text _) (.cons (readsAs_text _) (.cons ?_ .nil)))))
  rw [e.record.information_eq]
  exact hlist

theorem row_field {name cell : String} {w : UInt32} (h : ReadsAs cell w.toNat) :
    Row MiscInfo.columns (name, w) [name, cell] := .cons rfl (.cons h .nil)

theorem miscInfo_lists (r : MiscInfo) : (miscInfo r).Lists MiscInfo.columns r.fields := by
  have hdec : ∀ name (w : UInt32), Row MiscInfo.columns (name, w) [name, toString w.toNat] :=
    fun _ w => row_field (readsAs_toString w)
  refine ⟨rfl, ?_⟩
  exact .cons (hdec _ _) (.cons (row_field (readsAs_word _)) (.cons (hdec _ _) (.cons (hdec _ _)
    (.cons (hdec _ _) (.cons (hdec _ _) (.cons (hdec _ _) (.cons (hdec _ _) (.cons (hdec _ _)
    (.cons (hdec _ _) (.cons (hdec _ _) .nil))))))))))

end Table

/-! ## Dumps -/

/-- The tables of a dump list what it holds, and give back what consists of numbers. -/
structure Dump.ReadsBack (m : Dump) : Prop where
  streams : (Table.streams m).Lists DirectoryEntry.columns m.directory
  threads : (Table.threads m).Lists Thread.columns m.threads
  modules : (Table.modules m).Lists Module.columns m.modules
  segments : (Table.segments m).Lists Segment.columns m.segments
  regions : (Table.regions m).Lists Region.columns m.regions
  handles : (Table.handles m).Lists Handle.columns m.handles
  miscInfo : ∀ r ∈ m.miscInfo, (Table.miscInfo r).Lists MiscInfo.columns r.fields
  exception : ∀ e ∈ m.exception, (Table.exception e).Lists ExceptionInfo.columns [e]
  directory_recovered : (Table.streams m).rows.mapM DirectoryEntry.ofRow? = some m.directory
  segments_recovered : (Table.segments m).rows.mapM Segment.ofRow? = some m.segments

/-- A number is read back from its hexadecimal text of any width that a field has, and all numbers
of a dump are read back from its tables. -/
theorem printed_numbers_readBack : (∀ v width : Nat, Hex.FieldReadsBack v width) ∧
    ∀ source d m, (Dump.parse source d).result = .ok m → m.ReadsBack := by
  refine ⟨Hex.fieldReadsBack, fun source d m hm => ?_⟩
  have hsegments := Table.segments_lists (Dump.stored_of_parse hm)
  exact
    { streams := Table.streams_lists m
      threads := Table.threads_lists m
      modules := Table.modules_lists m
      segments := hsegments
      regions := Table.regions_lists m
      handles := Table.handles_lists m
      miscInfo := fun r _ => Table.miscInfo_lists r
      exception := fun e _ => Table.exception_lists e
      directory_recovered :=
        (Table.streams_lists m).mapM_rows fun _ _ => DirectoryEntry.ofRow?_of_row
      segments_recovered := hsegments.mapM_rows fun _ _ => Segment.ofRow?_of_row }

/-- A width that no field has. -/
theorem wideNumber_refused : Hex.field .usual (some 1) 0x8000000000000000 = .error .invalid ∧
    ¬ ∃ room s, Hex.field room (some 1) 0x8000000000000000 = .ok s ∧ ReadsAs s 1 :=
  ⟨rfl, fun ⟨_, _, hs, _⟩ => nomatch hs⟩

/-- A dump of a module with a version, an exception that counts more parameters than it has, a
captured range and the process. -/
def Dump.failedCall : Image :=
  ⟨(Record.pack (⟨Header.magic, 0xA793, 0, 4, 32, 0, 0, 0⟩ : Header) ++
    Record.pack (⟨4, 112, 80⟩ : DirectoryEntry) ++
    Record.pack (⟨6, 168, 192⟩ : DirectoryEntry) ++
    Record.pack (⟨5, 20, 360⟩ : DirectoryEntry) ++
    Record.pack (⟨15, 44, 380⟩ : DirectoryEntry) ++
    Record.pack (1 : UInt32) ++
    Record.pack (⟨0x400000, 0x1000, 0, 0x5F, 0, ⟨0xFEEF04BD, 0, 0xA0001, 0x4A650003, 0, 0, 0, 0, 0,
      0, 0, 0, 0⟩, ⟨0, 0⟩, ⟨0, 0⟩, 0, 0⟩ : ModuleRecord) ++
    Record.pack (⟨7, ⟨0xC0000005, 0, 0, 0x401000, 20,
      #v[1, 0xFF, 0, 0, 0, 0, 0, 0, 0, 0, 0, 0, 0, 0, 16]⟩, ⟨0, 0⟩⟩ : ExceptionInfo) ++
    Record.pack (1 : UInt32) ++
    Record.pack (⟨0x9000, ⟨6, 0x30⟩⟩ : MemoryRange) ++
    Record.pack (⟨44, 0xAB, 1234, 0, 0, 0, 0, 0, 0, 0, 0⟩ : MiscInfo)).toArray⟩

theorem failedCall_readsBack : ∃ m, (Dump.parse .memory Dump.failedCall).result = .ok m ∧
    m.ReadsBack ∧ (Table.segments m).rows = [["0x9000", "0x30", "0x6"]] ∧
    (Table.modules m).rows =
      [["", "0x00400000", "0x1000", "0x00401000", "0x5f", "10.1.19045.3"]] ∧
    m.exception.map (·.record.parameterCount) = some 20 ∧
    m.miscInfo.map (fun r => (Table.miscInfo r).rows.take 3) =
      some [["SizeOfInfo", "44"], ["Flags1", "0x000000AB"], ["ProcessId", "1234"]] := by
  have hm : (Dump.parse .memory Dump.failedCall).result = .ok (Dump.inPlace Dump.failedCall) :=
    Dump.parse_of_acceptable (by decide +kernel)
  refine ⟨_, hm, printed_numbers_readBack.2 .memory Dump.failedCall _ hm, ?_⟩
  decide +kernel

end CrashDump
