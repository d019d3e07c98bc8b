import CrashDump.Proofs.Consoles
import CrashDump.Proofs.HexDumps
import CrashDump.Proofs.ListCounts
import CrashDump.Proofs.SoftReads

/-! # Exit codes

The exit code of a command line tells what becomes of its output. Code 2 is given before any file
is looked at and leaves output and log empty; code 1 leaves the output empty and one error at the
end of the log; code 0 leaves no error there. Every command line keeps to that but one that asks for
more bytes of a segment, or more text of them, than there is room for, for a pointer that is stored
out of reach, or that has something printed in which the console finds a fault. Such a command line
ends without an exit code.
-/
namespace CrashDump

/-! ## Reads of a file -/

namespace Dump
variable {room : Room} {d : Image} {m : Dump} {a n : Int} {s : Segment}

/-- A span that lies in the first segment to hold its address. -/
def Spans (m : Dump) (a n : Int) (s : Segment) : Prop :=
  0 ≤ n ∧ m.findSegment a = some s ∧ a + n ≤ s.endAddress

/-- A block of a segment that is larger than any that is read at once. -/
def Overlarge (room : Room) (m : Dump) (a n : Int) : Prop :=
  ∃ s, m.Spans a n s ∧ s.fileOffset a < Cursor.reach ∧ ((Source.file room).limit : Int) ≤ n

/-- A block that is read, but for whose text there is no room. -/
def Overlong (room : Room) (d : Image) (m : Dump) (a n : Int) : Prop :=
  ∃ b, m.spanFrom (.file room) d a n = .ok b ∧ room.limit ≤ (HexDump.text 16 a b.bytes).length

def Overtaxes (room : Room) (d : Image) (m : Dump) : Action → Prop
  | .read a n => m.Overlarge room a n ∨ m.Overlong room d a n
  | .string a n => m.Overlarge room a n
  | .pointer a => ∃ s, m.Spans a m.pointerSize s ∧ Cursor.reach ≤ s.fileOffset a
  | _ => False

variable {source : Source}

theorem spanFrom_of_spans (h : m.Spans a n s) : m.spanFrom source d a n =
    if Cursor.reach ≤ s.fileOffset a then .error .tooFar
    else blockFrom source d (s.fileOffset a) a n := by
  obtain ⟨hn, ht, he⟩ := h
  rw [spanFrom_of_some hn ht, if_neg (by omega)]

theorem spanFrom_of_not_spans (hn : 0 ≤ n) (h : ∀ s, ¬ m.Spans a n s) :
    m.spanFrom source d a n = .error (.unmapped a n) := by
  cases ht : m.findSegment a with
  | none => exact spanFrom_of_none hn ht
  | some s =>
    have he : ¬ a + n ≤ s.endAddress := fun he => h s ⟨hn, ht, he⟩
    rw [spanFrom_of_some hn ht, if_pos (by omega)]

theorem spanFrom_of_overlarge (h : m.Overlarge room a n) :
    ∃ f, m.spanFrom (.file room) d a n = .error f ∧ f.isFatal (.file room) = true := by
  obtain ⟨s, hs, hoff, hn⟩ := h
  have hr : ¬ n.toNat < (Source.file room).limit := by omega
  obtain ⟨f, hf⟩ := Option.ne_none_iff_exists'.mp (mt Source.refusal?_eq_none_iff.mp hr)
  refine ⟨f, ?_, ?_⟩
  · rw [spanFrom_of_spans hs, if_neg (by omega), blockFrom_of_refusal hf]
  · rcases Source.refusal?_eq_some hf with rfl | rfl
    · rfl
    · rfl

/-- Short of an overlarge block no fault is more than the lack of some bytes or a bad value. -/
theorem isFatal_of_not_overlarge {f : Fault} (h : ¬ m.Overlarge room a n)
    (hf : m.spanFrom (.file room) d a n = .error f) : f.isFatal (.file room) = false := by
  by_cases hn : n < 0
  · rw [spanFrom_of_negative hn] at hf
    cases hf
    rfl
  · by_cases hs : ∃ s, m.Spans a n s
    · obtain ⟨s, hs⟩ := hs
      rw [spanFrom_of_spans hs] at hf
      by_cases hoff : Cursor.reach ≤ s.fileOffset a
      · rw [if_pos hoff] at hf
        cases hf
        rfl
      · have hr : n.toNat < (Source.file room).limit := by
          by_contra hr
          exact h ⟨s, hs, by omega, by omega⟩
        rw [if_neg hoff, blockFrom_of_room (Source.refusal?_eq_none_iff.mpr hr)] at hf
        split_ifs at hf
        cases hf
        rfl
    · rw [spanFrom_of_not_spans (Int.not_lt.mp hn) (not_exists.mp hs)] at hf
      cases hf
      rfl

/-- A span of a page at most that is not stored out of reach is read or unmapped. -/
theorem spanFrom_of_near (source : Source) (hn : 0 ≤ n) (hr : n ≤ pageSize)
    (h : ∀ s, m.Spans a n s → s.fileOffset a < Cursor.reach) :
    (∃ b, m.spanFrom source d a n = .ok b) ∨ m.spanFrom source d a n = .error (.unmapped a n) := by
  by_cases hs : ∃ s, m.Spans a n s
  · obtain ⟨s, hs⟩ := hs
    have hoff := h s hs
    rw [spanFrom_of_spans hs, if_neg (by omega),
      blockFrom_of_room (source.refusal?_of_page (by omega))]
    split
    · exact .inl ⟨_, rfl⟩
    · exact .inr rfl
  · exact .inr (spanFrom_of_not_spans hn (not_exists.mp hs))

theorem fileOffset_lt_of_spans (hf : ∀ s ∈ m.segments, s.file + s.size < Cursor.reach)
    (h : m.Spans a n s) : s.fileOffset a < Cursor.reach := by
  obtain ⟨-, ht, -⟩ := h
  obtain ⟨hmem, ha⟩ := mem_of_findSegment ht
  have hl := hf s hmem
  have ha := (Segment.contains_iff.mp ha).2
  rw [Segment.endAddress] at ha
  rw [Segment.fileOffset]
  omega

/-- A block of one segment that is larger, or whose text is longer, than there is room for. -/
def LacksRoom (room : Room) (d : Image) (m : Dump) (x : Action) : Prop :=
  ∃ a n, (x = .read a n ∨ x = .string a n) ∧ (∃ s, m.Spans a n s) ∧
      ((Source.file room).limit : Int) ≤ n ∨
    x = .read a n ∧ m.Overlong room d a n

/-- Where all segments end within reach, only the size of a block is to be minded. -/
theorem overtaxes_iff_of_near (hf : ∀ s ∈ m.segments, s.file + s.size < Cursor.reach) (x : Action) :
    m.Overtaxes room d x ↔ m.LacksRoom room d x := by
  have hnear : ∀ {a n s}, m.Spans a n s → s.fileOffset a < Cursor.reach :=
    fun h => fileOffset_lt_of_spans hf h
  have hlarge : ∀ {a n}, m.Overlarge room a n ↔
      (∃ s, m.Spans a n s) ∧ ((Source.file room).limit : Int) ≤ n := by
    intro a n
    constructor
    · rintro ⟨s, hs, -, hn⟩
      exact ⟨⟨s, hs⟩, hn⟩
    · rintro ⟨⟨s, hs⟩, hn⟩
      exact ⟨s, hs, hnear hs, hn⟩
  constructor
  · intro h
    cases x with
    | read a n =>
      rcases h with h | h
      · exact ⟨a, n, .inl ⟨.inl rfl, hlarge.mp h⟩⟩
      · exact ⟨a, n, .inr ⟨rfl, h⟩⟩
    | string a n => exact ⟨a, n, .inl ⟨.inr rfl, hlarge.mp h⟩⟩
    | pointer a =>
      obtain ⟨s, hs, hoff⟩ := h
      exact absurd (hnear hs) (Int.not_lt.mpr hoff)
    | _ => exact h.elim
  · rintro ⟨a, n, ⟨rfl | rfl, h⟩ | ⟨rfl, h⟩⟩
    · exact .inl (hlarge.mpr h)
    · exact hlarge.mpr h
    · exact .inr h

theorem pointerSize_le (m : Dump) : (m.pointerSize : Int) ≤ pageSize := by
  rw [pointerSize]
  split <;> decide

end Dump

/-! ## Outcomes -/

namespace Outcome

def NoError (log : List LogLine) : Prop := ∀ l ∈ log, l.level ≠ .error

/-- What an exit code tells of the output and the log. -/
def Tells (o : Outcome) : (code : Nat) → Prop
  | 0 => NoError o.log
  | 1 => o.printed = [] ∧ ∃ earlier text, o.log = earlier ++ [⟨.error, text⟩] ∧ NoError earlier
  | 2 => o.printed = [] ∧ o.log = []
  | _ => False

def Concludes (o : Outcome) : Prop := ∃ code < 2, o.ending = .exit code ∧ o.Tells code

theorem concludes_print (p : Printed) : (print p).Concludes :=
  ⟨0, by decide, rfl, List.forall_mem_nil _⟩

theorem concludes_info (text : String) : (info text).Concludes :=
  ⟨0, by decide, rfl, by simp [info, Tells, NoError]⟩

theorem concludes_fail (text : String) : (fail text).Concludes :=
  ⟨1, by decide, rfl, rfl, [], text, rfl, List.forall_mem_nil _⟩

theorem Concludes.after {o : Outcome} {log : List LogLine} (hl : NoError log)
    (h : o.Concludes) : (after log o).Concludes := by
  obtain ⟨code, hc, he, ht⟩ := h
  refine ⟨code, hc, he, ?_⟩
  match code, hc with
  | 0, _ => exact List.forall_mem_append.mpr ⟨hl, ht⟩
  | 1, _ =>
    obtain ⟨hp, earlier, text, hlog, hn⟩ := ht
    refine ⟨hp, log ++ earlier, text, ?_, List.forall_mem_append.mpr ⟨hl, hn⟩⟩
    rw [Outcome.after, hlog, List.append_assoc]

/-! ## Actions on a dump -/

theorem concludes_ofSection (m : Dump) (p : Section) : (ofSection m p).Concludes := by
  unfold ofSection
  cases p.table? m with
  | none => exact concludes_info _
  | some t => exact concludes_print _

theorem concludes_ofModule (x : Option Module) : (ofModule x).Concludes := by
  cases x with
  | none => exact concludes_fail _
  | some x => exact concludes_print _

section Actions
variable {room : Room} {d : Image} {m : Dump} (hs : ∀ s ∈ m.segments, s.Stored) {a n : Int}
include hs

theorem readMemory_start (room : Room) (d : Image) (a n : Int) :
    m.readMemory a n (Cursor.start d (.file room)) =
      (Cursor.start d (.file room)).result (m.spanFrom (.file room) d a n) :=
  Dump.readMemory_eq_spanFrom (Cursor.openOn_start d (.file room)) hs a n

theorem ofRead_of_ok {b : Image} (h : m.spanFrom (.file room) d a n = .ok b) :
    ofRead room d m a n = if room.limit ≤ (HexDump.text 16 a b.bytes).length then breakOff .noRoom
      else print (.text (HexDump.text 16 a b.bytes)) := by
  rw [ofRead, readMemory_start hs, h]
  simp only [Cursor.result, HexDump.dump_defaultWidth, inRoom]
  split_ifs with hr
  · rfl
  · rfl

theorem ofRead_of_overtaxes (h : m.Overlarge room a n ∨ m.Overlong room d a n) :
    ∃ f, ofRead room d m a n = breakOff f := by
  rcases h with h | ⟨b, hb, hr⟩
  · obtain ⟨f, hf, hx⟩ := Dump.spanFrom_of_overlarge (d := d) h
    refine ⟨f, ?_⟩
    rw [ofRead, readMemory_start hs, hf]
    exact if_pos hx
  · exact ⟨.noRoom, (ofRead_of_ok hs hb).trans (if_pos hr)⟩

theorem concludes_ofRead (h : ¬ (m.Overlarge room a n ∨ m.Overlong room d a n)) :
    (ofRead room d m a n).Concludes := by
  obtain ⟨hlarge, hlong⟩ := not_or.mp h
  cases hf : m.spanFrom (.file room) d a n with
  | ok b =>
    rw [ofRead_of_ok hs hf, if_neg fun hr => hlong ⟨b, hf, hr⟩]
    exact concludes_print _
  | error f =>
    have hx : f.isFatal (Cursor.start d (.file room)).source = false :=
      Dump.isFatal_of_not_overlarge hlarge hf
    rw [ofRead, readMemory_start hs, hf]
    simp only [Cursor.result, hx, Bool.false_eq_true, if_false]
    exact concludes_fail _

theorem ofText_of_overlarge (h : m.Overlarge room a n) : ∃ f, ofText room d m a n = breakOff f := by
  obtain ⟨f, hf, hx⟩ := Dump.spanFrom_of_overlarge (d := d) h
  have hr := readMemory_start hs room d a n
  rw [hf] at hr
  exact ⟨f, by rw [ofText, Dump.readText_of_fatal hx hr]⟩

theorem concludes_ofText (h : ¬ m.Overlarge room a n) : (ofText room d m a n).Concludes := by
  have hr := readMemory_start hs room d a n
  cases hf : m.spanFrom (.file room) d a n with
  | ok b =>
    rw [hf] at hr
    rw [ofText, Dump.readText_of_ok hr]
    exact concludes_print _
  | error f =>
    rw [hf] at hr
    rw [ofText, Dump.readText_of_error (Dump.isFatal_of_not_overlarge h hf) hr]
    exact concludes_print _

theorem ofPointer_of_far {s : Segment} (h : m.Spans a m.pointerSize s)
    (hoff : Cursor.reach ≤ s.fileOffset a) : ofPointer room d m a = breakOff .tooFar := by
  have hr := readMemory_start hs room d a m.pointerSize
  rw [Dump.spanFrom_of_spans h, if_pos hoff] at hr
  simp only [ofPointer, Dump.readPointer, hr, Cursor.result]

theorem concludes_ofPointer (h : ∀ s, m.Spans a m.pointerSize s → s.fileOffset a < Cursor.reach) :
    (ofPointer room d m a).Concludes := by
  have hr := readMemory_start hs room d a m.pointerSize
  rcases Dump.spanFrom_of_near (d := d) (.file room) (Int.natCast_nonneg _) m.pointerSize_le h
    with ⟨b, hb⟩ | hb
  · rw [hb] at hr
    rw [ofPointer, Dump.readPointer_of_ok hr]
    exact concludes_print _
  · rw [hb] at hr
    rw [ofPointer, Dump.readPointer_of_unmapped hr]
    exact concludes_fail _

theorem ofAction_of_overtaxes {x : Action} (h : m.Overtaxes room d x) :
    ∃ f, ofAction room d m x = breakOff f := by
  cases x with
  | read a n => exact ofRead_of_overtaxes hs h
  | string a n => exact ofText_of_overlarge hs h
  | pointer a =>
    obtain ⟨s, hx, hoff⟩ := h
    exact ⟨.tooFar, ofPointer_of_far hs hx hoff⟩
  | _ => exact h.elim

theorem concludes_ofAction {x : Action} (h : ¬ m.Overtaxes room d x) :
    (ofAction room d m x).Concludes := by
  cases x with
  | part p => exact concludes_ofSection m p
  | all => exact ⟨0, by decide, rfl, List.forall_mem_nil _⟩
  | read a n => exact concludes_ofRead hs h
  | string a n => exact concludes_ofText hs h
  | pointer a =>
    refine concludes_ofPointer hs fun s hx => ?_
    by_contra hoff
    exact h ⟨s, hx, Int.not_lt.mp hoff⟩
  | moduleAt a => exact concludes_ofModule _
  | moduleNamed part => exact concludes_ofModule _

end Actions

/-! ## Requests -/

section Requests
variable {room : Room} {r : Request} {contents : Except FileFault Image}

theorem noError_notices (log : List Notice) : NoError (log.map LogLine.ofNotice) := by
  intro l hl
  obtain ⟨n, -, rfl⟩ := List.mem_map.mp hl
  exact nofun

theorem concludes_ofRequest (h : ∀ d m, contents = .ok d →
    (Dump.parse (.file room) d).result = .ok m → ¬ m.Overtaxes room d r.action) :
    (ofRequest room r contents).Concludes := by
  cases contents with
  | error f => exact concludes_fail _
  | ok d =>
    rw [ofRequest]
    refine Concludes.after (noError_notices _) ?_
    cases hm : (Dump.parse (.file room) d).result with
    | ok m => exact concludes_ofAction (Dump.stored_of_parse hm) (h d m rfl hm)
    | error e =>
      -- A file that is no dump is rejected, and no access to it breaks off.
      have hw : ¬ Dump.WellFormed d := by
        intro hw
        rw [Dump.parse_of_wellFormed (.file room) hw] at hm
        cases hm
      obtain ⟨reason, hr⟩ := Dump.parse_of_not_wellFormed (.file room) hw
      obtain rfl : e = .rejected reason := Except.error.inj (hm.symm.trans hr)
      exact concludes_fail _

theorem ofRequest_of_overtaxes {d : Image} {m : Dump} (hd : contents = .ok d)
    (hm : (Dump.parse (.file room) d).result = .ok m) (h : m.Overtaxes room d r.action) :
    ∃ f log, ofRequest room r contents = after log (breakOff f) := by
  obtain ⟨f, hf⟩ := ofAction_of_overtaxes (d := d) (Dump.stored_of_parse hm) h
  refine ⟨f, (Dump.parse (.file room) d).notices.map LogLine.ofNotice, ?_⟩
  rw [hd, ofRequest, hm]
  exact congrArg (after _) hf

end Requests

end Outcome

/-! ## Command lines -/

namespace Folder
variable {w : Folder}

def isFolder : Except FileFault Spot → Bool
  | .ok .here => true
  | .ok .above => true
  | _ => false

theorem isFolder_from_file (d : Image) (parts : List (List Char)) :
    isFolder (parts.foldlM w.step (.file d)) = false := by
  cases parts with
  | nil => rfl
  | cons part parts => rfl

theorem isFolder_from_above (parts : List (List Char)) :
    isFolder (parts.foldlM w.step .above) = parts.all fun part => part = ['.', '.'] := by
  induction parts with
  | nil => rfl
  | cons part parts ih =>
    rw [List.foldlM_cons, List.all_cons, step]
    split_ifs with hp hn
    · rw [decide_eq_true hp, Bool.true_and, ← ih]
      rfl
    · rw [decide_eq_false hp, Bool.false_and]
      rfl
    · rw [decide_eq_false hp, Bool.false_and]
      rfl

theorem isFolder_from_here (parts : List (List Char)) :
    isFolder (parts.foldlM w.step .here) = parts.all fun part => part = ['.', '.'] := by
  cases parts with
  | nil => rfl
  | cons part parts =>
    rw [List.foldlM_cons, List.all_cons, step]
    split_ifs with hp hn
    · rw [decide_eq_true hp, Bool.true_and, ← isFolder_from_above (w := w)]
      rfl
    · rw [decide_eq_false hp, Bool.false_and]
      rfl
    · rw [decide_eq_false hp, Bool.false_and]
      cases w.files.lookup (String.ofList part) with
      | none => rfl
      | some d => exact isFolder_from_file d parts

/-- A path leads to a folder if it does nothing but go up, whatever files there are. -/
theorem isDirectory_eq (w : Folder) (path : String) : w.isDirectory path =
    if pathByteLimit ≤ path.utf8ByteSize then false
    else (pathParts path.toList).all fun part => part = ['.', '.'] := by
  have hx : w.isDirectory path = isFolder (w.resolve path) := rfl
  rw [hx, resolve]
  split_ifs with hl hr
  · rfl
  · exact isFolder_from_here _
  · exact isFolder_from_above _

theorem isDirectory_congr (w w' : Folder) : w.isDirectory = w'.isDirectory := by
  funext path
  rw [isDirectory_eq, isDirectory_eq]

/-- A command line comes to doing something with the dump in its file. -/
def Does (room : Room) (w : Folder) (args : List String) (d : Image) (m : Dump) (x : Action) :
    Prop :=
  ∃ r, Request.ofCommandLine w.isDirectory args = .ok r ∧ w.contents r.file = .ok d ∧
    (Dump.parse (.file room) d).result = .ok m ∧ r.action = x

end Folder

namespace Outcome

/-- What a command line comes to keeps the promise of an exit code, and is the same whatever files
there are if that is 2. -/
structure Disciplined (h : Host) (w : Folder) (args : List String) : Prop where
  told : ∃ code, (inFolder h w args).ending = .exit code ∧ (inFolder h w args).Tells code
  fileless : (inFolder h w args).ending = .exit 2 →
    ∀ files, inFolder h { w with files := files } args = inFolder h w args

section CommandLines
variable {h : Host} {w : Folder} {args : List String} {o : Outcome}

/-- An exit code tells nothing of items that were printed. -/
theorem Tells.shownOn {code : Nat} (ht : o.Tells code) (k : Console) :
    (o.shownOn k).Tells code := by
  match code with
  | 0 => exact ht
  | 1 =>
    obtain ⟨hp, hlog⟩ := ht
    rw [shownOn_of_silent hp]
    exact ⟨hp, hlog⟩
  | 2 =>
    obtain ⟨hp, hlog⟩ := ht
    rw [shownOn_of_silent hp]
    exact ⟨hp, hlog⟩
  | _ + 3 => exact ht

theorem inFolder_of_request {r : Request}
    (hr : Request.ofCommandLine w.isDirectory args = .ok r) :
    inFolder h w args = (ofRequest h.room r (w.contents r.file)).shownOn h.console := by
  rw [inFolder, ofCommandLine, hr]

theorem disciplined_of_usage {u : Usage}
    (hu : Request.ofCommandLine w.isDirectory args = .error u) : Disciplined h w args := by
  have hx : ∀ files, inFolder h { w with files := files } args = ofUsage u := by
    intro files
    rw [inFolder, ofCommandLine, Folder.isDirectory_congr _ w, hu]
  have hw : inFolder h w args = ofUsage u := hx w.files
  constructor
  case told =>
    rw [hw]
    by_cases hhelp : u = .help
    · exact ⟨0, congrArg Ending.exit (if_pos hhelp), List.forall_mem_nil _⟩
    · exact ⟨2, congrArg Ending.exit (if_neg hhelp), rfl, rfl⟩
  case fileless =>
    intro _ files
    rw [hx, hw]

theorem disciplined_of_request {r : Request}
    (hr : Request.ofCommandLine w.isDirectory args = .ok r)
    (hc : (ofRequest h.room r (w.contents r.file)).Concludes)
    (ht : h.console.Takes (ofRequest h.room r (w.contents r.file)).printed) :
    Disciplined h w args := by
  obtain ⟨code, hlt, he, htells⟩ := hc
  have hx := inFolder_of_request (h := h) hr
  have hend : (inFolder h w args).ending = .exit code := by
    rw [hx, ending_shownOn_of_takes ht, he]
  constructor
  case told => exact ⟨code, hend, hx ▸ htells.shownOn _⟩
  case fileless =>
    intro h2
    obtain rfl := Ending.exit.inj (hend.symm.trans h2)
    exact absurd hlt (Nat.lt_irrefl 2)

/-- What a command line has printed, as a console shows it that finds no markup. -/
theorem printed_inFolder_verbatim {r : Request}
    (hr : Request.ofCommandLine w.isDirectory args = .ok r) :
    (inFolder ⟨h.room, .verbatim⟩ w args).printed =
      (ofRequest h.room r (w.contents r.file)).printed := by
  rw [inFolder_of_request hr, shownOn_verbatim]

end CommandLines

/-- A command line keeps to its exit code unless it overtaxes the dump in its file, or the console
finds fault with something it has printed. With all segments stored within reach it overtaxes the
dump if there is no room for a block of one segment, or for the text of one. -/
theorem disciplined_iff (h : Host) (w : Folder) (args : List String) :
    (Disciplined h w args ↔ (∀ d m x, w.Does h.room args d m x → ¬ m.Overtaxes h.room d x) ∧
      ∀ p ∈ (inFolder ⟨h.room, .verbatim⟩ w args).printed, h.console.show? p ≠ none) ∧
      ∀ d m x, w.Does h.room args d m x → (∀ s ∈ m.segments, s.file + s.size < Cursor.reach) →
        (m.Overtaxes h.room d x ↔ m.LacksRoom h.room d x) := by
  refine ⟨?_, fun d m x _ hfile => Dump.overtaxes_iff_of_near hfile x⟩
  rw [← Console.takes_iff]
  cases hr : Request.ofCommandLine w.isDirectory args with
  | error u =>
    have hp : inFolder ⟨h.room, .verbatim⟩ w args = ofUsage u := by
      rw [inFolder, ofCommandLine, hr]
    refine iff_of_true (disciplined_of_usage hr) ⟨?_, hp ▸ h.console.takes_nil⟩
    rintro d m x ⟨r, hr', -⟩
    cases hr.symm.trans hr'
  | ok r =>
    rw [printed_inFolder_verbatim hr]
    have hx := inFolder_of_request (h := h) hr
    constructor
    · rintro ⟨⟨code, he, -⟩, -⟩
      rw [hx] at he
      refine ⟨?_, ?_⟩
      · rintro d m x ⟨r', hr', hd, hm, rfl⟩ ho
        obtain rfl := Except.ok.inj (hr.symm.trans hr')
        obtain ⟨f, log, hf⟩ := ofRequest_of_overtaxes hd hm ho
        rw [hf, shownOn_after] at he
        cases he
      · by_contra ht
        rw [ending_shownOn_of_not_takes ht] at he
        cases he
    · rintro ⟨ho, ht⟩
      exact disciplined_of_request hr
        (concludes_ofRequest fun d m hd hm => ho d m _ ⟨r, hr, hd, hm, rfl⟩) ht

/-! ## A block without room -/

def folderOf (d : Image) : Folder := ⟨[("dump.dmp", d)], 1⟩

def vastRead : List String := ["read", "-f", "dump.dmp", "-a", "0", "-s", "0x4000000000000000"]

/-- A dump with a segment of 4 EiB, of which the image holds almost nothing. -/
def vastMemory : Image :=
  Dump.loneStream ⟨9, ⟨32, 44⟩⟩ (Record.pack (⟨1, 0⟩ : Memory64Header) ++
    [(⟨0, 0x4000000000000000⟩ : MemoryRange64)].flatMap Record.pack)

theorem size_vastMemory : vastMemory.size = 76 := Dump.size_loneStream _ _

theorem holds_vastMemory : vastMemory.Holds 44 (Record.pack (⟨1, 0⟩ : Memory64Header) ++
    [(⟨0, 0x4000000000000000⟩ : MemoryRange64)].flatMap Record.pack) :=
  Dump.holds_payload _ _

theorem fits_vastMemory : StreamKind.Fits vastMemory 44 .memory64List := by
  rw [StreamKind.Fits, Image.Fits, size_vastMemory]
  decide

theorem segments_vastMemory :
    (Dump.inPlace vastMemory).segments = [⟨0, 0x4000000000000000, 0⟩] := by
  have hhead : (Record.readAt vastMemory 44 : Memory64Header) = ⟨1, 0⟩ :=
    Record.readAt_of_packed holds_vastMemory.left
  have hn : vastMemory.natAt 44 8 = 1 := by rw [← Memory64Header.toNat_rangeCount, hhead]; rfl
  have hb : vastMemory.natAt 52 8 = 0 := by
    have h := Memory64Header.toNat_baseRva vastMemory 44
    rw [hhead] at h
    exact h.symm
  have hr : Record.run MemoryRange64 vastMemory 60 1 = [⟨0, 0x4000000000000000⟩] :=
    Record.run_of_packed holds_vastMemory.right
  have ht : StreamKind.taken vastMemory 44 .memory64List = 1 := by
    rw [StreamKind.taken, StreamKind.asked_of_limited rfl, StreamKind.declared, hn,
      size_vastMemory]
    rfl
  have hx : StreamKind.firstOf vastMemory 44 (StreamKind.taken vastMemory 44 .memory64List)
      .memory64List = .segments [⟨0, 0x4000000000000000, 0⟩] := by
    rw [ht, StreamKind.firstOf, hb, hr]
    rfl
  have hc := congrArg Contents.segments
    (Dump.contents_loneStream (k := .memory64List) rfl fits_vastMemory)
  refine Eq.trans hc ((congrArg (fun x => (Contents.ofStreams [x]).segments) hx).trans ?_)
  rfl

theorem parse_vastMemory :
    (Dump.parse (.file .usual) vastMemory).result = .ok (Dump.inPlace vastMemory) :=
  Dump.parse_eq_ok_iff.mpr ⟨Dump.wellFormed_loneStream fits_vastMemory, rfl⟩

/-- All of the segment lies within reach, and so does the size of the read. -/
theorem vastMemory_not_disciplined : ∃ m,
    (folderOf vastMemory).Does .usual vastRead vastMemory m (.read 0 0x4000000000000000) ∧
    (∀ s ∈ m.segments, s.file + s.size < Cursor.reach) ∧
    (0x4000000000000000 : Int) < Cursor.reach ∧
    (inFolder .usual (folderOf vastMemory) vastRead).ending = .fault .noRoom ∧
    ¬ Disciplined .usual (folderOf vastMemory) vastRead := by
  have hm := parse_vastMemory
  have hs := Dump.stored_of_parse hm
  have hspans : (Dump.inPlace vastMemory).Spans 0 0x4000000000000000
      ⟨0, 0x4000000000000000, 0⟩ := by
    refine ⟨by decide, ?_, by decide⟩
    rw [Dump.findSegment, segments_vastMemory]
    decide
  have hr : (Source.file .usual).refusal? (0x4000000000000000 : Int).toNat = some .noRoom := by
    decide
  have hread : ofRead .usual vastMemory (Dump.inPlace vastMemory) 0 0x4000000000000000 =
      breakOff .noRoom := by
    rw [ofRead, readMemory_start hs, Dump.spanFrom_of_spans hspans, if_neg (by decide),
      Dump.blockFrom_of_refusal hr]
    rfl
  have hfolder : inFolder .usual (folderOf vastMemory) vastRead =
      (ofRequest .usual ⟨"dump.dmp", .read 0 0x4000000000000000⟩ (.ok vastMemory)).shownOn
        .verbatim := rfl
  have he : (inFolder .usual (folderOf vastMemory) vastRead).ending = .fault .noRoom := by
    rw [hfolder, shownOn_verbatim, ofRequest, hm]
    exact congrArg Outcome.ending hread
  refine ⟨_, ⟨_, rfl, rfl, hm, rfl⟩, ?_, by decide, he, ?_⟩
  · rw [segments_vastMemory]
    decide
  · rintro ⟨⟨code, hc, -⟩, -⟩
    cases he.symm.trans hc

def briefRead : List String := ["read", "-f", "dump.dmp", "-a", "0x9001", "-s", "5"]

theorem twoMemories_disciplined : ∃ m,
    (folderOf Dump.twoMemories).Does .usual briefRead Dump.twoMemories m (.read 0x9001 5) ∧
    (∀ s ∈ m.segments, s.file + s.size < Cursor.reach) ∧
    ¬ m.Overtaxes .usual Dump.twoMemories (.read 0x9001 5) ∧
    (∀ p ∈ (inFolder .usual (folderOf Dump.twoMemories) briefRead).printed,
      Console.verbatim.show? p ≠ none) ∧
    Disciplined .usual (folderOf Dump.twoMemories) briefRead := by
  have hm : (Dump.parse (.file .usual) Dump.twoMemories).result =
      .ok (Dump.inPlace Dump.twoMemories) := Dump.parse_of_acceptable Dump.twoMemories_layout.1
  have hdoes : (folderOf Dump.twoMemories).Does .usual briefRead Dump.twoMemories
      (Dump.inPlace Dump.twoMemories) (.read 0x9001 5) := ⟨_, rfl, rfl, hm, rfl⟩
  have hfile : ∀ s ∈ (Dump.inPlace Dump.twoMemories).segments,
      s.file + s.size < Cursor.reach := by
    rw [Dump.twoMemories_layout.2.1]
    decide
  have hshown : ∀ p ∈ (inFolder .usual (folderOf Dump.twoMemories) briefRead).printed,
      Console.verbatim.show? p ≠ none := by
    intro p _
    rw [Console.show?_verbatim]
    exact Option.some_ne_none p
  obtain ⟨hiff, hnear⟩ := disciplined_iff .usual (folderOf Dump.twoMemories) briefRead
  have hno : ¬ (Dump.inPlace Dump.twoMemories).Overtaxes .usual Dump.twoMemories
      (.read 0x9001 5) := by
    intro ho
    obtain ⟨a, n, ⟨hx | hx, -, hn⟩ | ⟨hx, b, hb, hr⟩⟩ := (hnear _ _ _ hdoes hfile).mp ho
    · cases hx
      exact absurd hn (by decide)
    · cases hx
    · cases hx
      have hsize : b.bytes.length = 5 :=
        Int.ofNat_inj.mp (Dump.size_of_spanFrom (Dump.stored_of_parse hm) hb)
      have hlen : (HexDump.text 16 0x9001 b.bytes).length = 19 + 3 * 16 + b.bytes.length :=
        HexDump.length_text_of_le (by decide) (List.ne_nil_of_length_pos (by omega)) (by omega)
      have hlimit : (80 : Nat) < Host.usual.room.limit := by decide
      omega
  refine ⟨_, hdoes, hfile, hno, hshown, hiff.mpr ⟨?_, hshown⟩⟩
  rintro d m x ⟨r, hr, hd, hm', rfl⟩
  obtain rfl : (⟨"dump.dmp", .read 0x9001 5⟩ : Request) = r := Except.ok.inj hr
  obtain rfl : Dump.twoMemories = d := Except.ok.inj hd
  obtain rfl := Except.ok.inj (hm.symm.trans hm')
  exact hno

end Outcome

end CrashDump
