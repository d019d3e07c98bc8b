import CrashDump.Proofs.Consoles
import CrashDump.Proofs.GivenOptions
import CrashDump.Proofs.SlicedRecords
import Mathlib.Data.List.Basic

/-! # Full reports

A full report is the reports of its parts, one after the other. The commands for it and for the
parts take the same arguments and read the file in the same way, so that a file that holds no dump
is answered alike by all of them.
-/
namespace CrashDump

/-! ## Commands that take a file -/

def Section.command : Section → String
  | header => "header"
  | streams => "streams"
  | threads => "threads"
  | modules => "modules"
  | segments => "segments"
  | regions => "regions"
  | systemInfo => "sysinfo"
  | exception => "exception"
  | handles => "handles"
  | miscInfo => "misc"

namespace Verb

def report? : Verb → Option Action
  | part s => some (.part s)
  | all => some .all
  | _ => none

variable {v : Verb} {x : Action}

theorem options_of_report? (h : v.report? = some x) : v.options = [.file] := by
  cases v with
  | part s => rfl
  | all => rfl
  | _ => cases h

theorem ofSettings_of_report? (h : v.report? = some x) (s : Settings) :
    Action.ofSettings s v = .ok x := by
  cases v with
  | part p => cases h; rfl
  | all => cases h; rfl
  | _ => cases h

theorem ofName?_command (s : Section) : ofName? s.command = some (.part s) := by
  cases s <;> rfl

end Verb

namespace Request

def reportedFile (isDirectory : String → Bool) (args : List String) : Except Usage String := do
  let a ← Arguments.scan [.file] args
  if a.help then throw .help
  let s ← Settings.ofArguments isDirectory a
  let file ← Settings.required s.file
  if a.extra then throw .malformed
  return file

variable {isDirectory : String → Bool} {v : Verb} {x : Action}

theorem ofArguments_of_report? (h : v.report? = some x) (args : List String) :
    ofArguments isDirectory v args =
      (fun file => ⟨file, x⟩) <$> reportedFile isDirectory args := by
  unfold ofArguments reportedFile
  simp only [Verb.options_of_report? h, Verb.ofSettings_of_report? h, map_bind]
  refine bind_congr fun a => ?_
  cases a.help with
  | true => rfl
  | false =>
    simp only [Bool.false_eq_true, if_false, map_bind]
    refine bind_congr fun s => ?_
    refine bind_congr fun file => ?_
    cases a.extra with
    | true => rfl
    | false => rfl

/-- A file is refused for its path alone, before it is opened. -/
theorem reportedFile_of_file (file : String) : reportedFile isDirectory ["-f", file] =
    if Char.ofNat 0 ∈ (tidyPath file).toList ∨ isDirectory (tidyPath file) then .error .malformed
    else .ok (tidyPath file) := by
  have hs : Arguments.scan [.file] ["-f", file] = .ok { values := [(.file, file)] } := rfl
  have ho : Settings.ofArguments isDirectory { values := [(.file, file)] } =
      (fun s => s) <$> Settings.set isDirectory {} file .file := rfl
  unfold Settings.set at ho
  unfold reportedFile
  rw [hs]
  split_ifs with hp
  · rw [if_pos hp] at ho
    dsimp only [bind, Except.bind]
    rw [ho]
    rfl
  · rw [if_neg hp] at ho
    dsimp only [bind, Except.bind]
    rw [ho]
    rfl

theorem ofCommandLine_of_report? {name : String} (hn : Verb.ofName? name = some v)
    (h : v.report? = some x) (args : List String) : ofCommandLine isDirectory (name :: args) =
      (fun file => ⟨file, x⟩) <$> reportedFile isDirectory args := by
  unfold ofCommandLine
  rw [Verb.leading_of_ofName? hn]
  simp only [hn]
  exact ofArguments_of_report? h args

end Request

/-! ## Parts of a report -/

namespace Section

/-- The tag of the streams that a part is taken from, where it shows a single record. -/
def streamTag? : Section → Option Nat
  | systemInfo => some 7
  | exception => some 6
  | miscInfo => some 15
  | _ => none

/-- What is made of the last of some entries is missing just if there are none. -/
theorem map_last_eq_none_iff {α β γ : Type} {xs : List α} {f : α → β} {x : Option β}
    (h : x = xs.getLast?.map f) (g : β → γ) : x.map g = none ↔ xs = [] := by
  rw [h, Option.map_eq_none_iff, Option.map_eq_none_iff, List.getLast?_eq_none_iff]

theorem table?_eq_none_iff {d : Image} (hw : Dump.WellFormed d) {s : Section} {tag : Nat}
    (ht : s.streamTag? = some tag) :
    s.table? (Dump.inPlace d) = none ↔ (Dump.inPlace d).tagged tag = [] := by
  cases s with
  | systemInfo =>
    cases ht
    exact map_last_eq_none_iff (Dump.systemInfo_sliced hw) Table.systemInfo
  | exception =>
    cases ht
    exact map_last_eq_none_iff (Dump.exception_sliced hw) Table.exception
  | miscInfo =>
    cases ht
    exact map_last_eq_none_iff (Dump.miscInfo_sliced hw) Table.miscInfo
  | _ => cases ht

end Section

/-- The dump that a file holds. There is none behind a path that cannot be given. -/
def dumpOf? (room : Room) (isDirectory : String → Bool)
    (contents : String → Except FileFault Image) (file : String) : Option Dump :=
  let path := tidyPath file
  if Char.ofNat 0 ∈ path.toList ∨ isDirectory path then none
  else match contents path with
    | .error _ => none
    | .ok d => (Dump.parse (.file room) d).result.toOption

namespace Outcome
variable {h : Host} {isDirectory : String → Bool} {contents : String → Except FileFault Image}
variable {file : String}

/-- What a command comes to that is given nothing but a file. -/
def ofReport (h : Host) (isDirectory : String → Bool) (contents : String → Except FileFault Image)
    (file name : String) : Outcome :=
  ofCommandLine h isDirectory contents [name, "-f", file]

def onFile (room : Room) (isDirectory : String → Bool) (contents : String → Except FileFault Image)
    (file : String) (x : Action) : Outcome :=
  match Request.reportedFile isDirectory ["-f", file] with
  | .error u => ofUsage u
  | .ok path => ofRequest room ⟨path, x⟩ (contents path)

theorem ofReport_of_request {name : String} {x : Action}
    (hr : Request.ofCommandLine isDirectory [name, "-f", file] =
      (fun path => ⟨path, x⟩) <$> Request.reportedFile isDirectory ["-f", file]) :
    ofReport h isDirectory contents file name =
      (onFile h.room isDirectory contents file x).shownOn h.console := by
  unfold ofReport ofCommandLine onFile
  rw [hr]
  cases Request.reportedFile isDirectory ["-f", file] with
  | error u => rfl
  | ok path => rfl

theorem ofReport_command (s : Section) : ofReport h isDirectory contents file s.command =
    (onFile h.room isDirectory contents file (.part s)).shownOn h.console :=
  ofReport_of_request (Request.ofCommandLine_of_report? (Verb.ofName?_command s) rfl _)

theorem ofReport_all : ofReport h isDirectory contents file "all" =
    (onFile h.room isDirectory contents file .all).shownOn h.console :=
  ofReport_of_request (Request.ofCommandLine_of_report? (v := .all) rfl rfl _)

structure Silent (o : Outcome) : Prop where
  printed : o.printed = []
  ending : ∃ code, o.ending = .exit code

theorem onFile_eq (room : Room) (x : Action) : onFile room isDirectory contents file x =
    if Char.ofNat 0 ∈ (tidyPath file).toList ∨ isDirectory (tidyPath file) then ofUsage .malformed
    else ofRequest room ⟨tidyPath file, x⟩ (contents (tidyPath file)) := by
  unfold onFile
  rw [Request.reportedFile_of_file]
  split_ifs with hp
  · rfl
  · rfl

/-- Without a dump, what was to be done makes no difference. With one, its notices come first and
then it is done. -/
theorem onFile_cases (room : Room) (isDirectory : String → Bool)
    (contents : String → Except FileFault Image) (file : String) :
    (dumpOf? room isDirectory contents file = none ∧
        ∃ o : Outcome, o.Silent ∧ ∀ x, onFile room isDirectory contents file x = o) ∨
      ∃ d log, Dump.WellFormed d ∧ dumpOf? room isDirectory contents file = some (Dump.inPlace d) ∧
        ∀ x, onFile room isDirectory contents file x =
          after log (ofAction room d (Dump.inPlace d) x) := by
  simp only [onFile_eq, dumpOf?]
  split_ifs with hp
  · exact .inl ⟨rfl, ofUsage .malformed, ⟨rfl, _, rfl⟩, fun _ => rfl⟩
  · cases contents (tidyPath file) with
    | error f =>
      exact .inl ⟨rfl, ofRequest room ⟨tidyPath file, .all⟩ (.error f), ⟨rfl, 1, rfl⟩,
        fun _ => rfl⟩
    | ok d =>
      by_cases hw : Dump.WellFormed d
      · refine .inr ⟨d, (Dump.noticesIn d).map LogLine.ofNotice, hw, ?_, fun x => ?_⟩
        · simp only [Dump.parse_of_wellFormed (.file room) hw]
          rfl
        · simp only [ofRequest, Dump.parse_of_wellFormed (.file room) hw]
      · obtain ⟨r, hr⟩ := Dump.parse_of_not_wellFormed (.file room) hw
        have hx : ∀ x, ofRequest room ⟨tidyPath file, x⟩ (.ok d) =
            after ((Dump.parse (.file room) d).notices.map LogLine.ofNotice)
              (fail s!"Failed to parse {tidyPath file}: {r.message}") := by
          intro x
          simp only [ofRequest, hr]
        refine .inl ⟨?_, _, ⟨rfl, 1, rfl⟩, hx⟩
        simp only [hr]
        rfl

/-- So all reports of a file come to the same, or each shows something of one dump. -/
theorem ofReport_cases (h : Host) (isDirectory : String → Bool)
    (contents : String → Except FileFault Image) (file : String) :
    (dumpOf? h.room isDirectory contents file = none ∧ ∃ o : Outcome, o.Silent ∧
        ofReport h isDirectory contents file "all" = o ∧
        ∀ s, ofReport h isDirectory contents file (Section.command s) = o) ∨
      ∃ d log, Dump.WellFormed d ∧
        dumpOf? h.room isDirectory contents file = some (Dump.inPlace d) ∧
        ofReport h isDirectory contents file "all" =
          after log ((ofAction h.room d (Dump.inPlace d) .all).shownOn h.console) ∧
        ∀ s, ofReport h isDirectory contents file (Section.command s) =
          after log ((ofSection (Dump.inPlace d) s).shownOn h.console) := by
  rcases onFile_cases h.room isDirectory contents file with ⟨hn, o, hs, ho⟩ | ⟨d, log, hw, hd, ho⟩
  · refine .inl ⟨hn, o, hs, ?_, fun s => ?_⟩
    · rw [ofReport_all, ho, shownOn_of_silent hs.printed]
    · rw [ofReport_command, ho, shownOn_of_silent hs.printed]
  · refine .inr ⟨d, log, hw, hd, ?_, fun s => ?_⟩
    · rw [ofReport_all, ho, shownOn_after]
    · rw [ofReport_command, ho, shownOn_after]
      rfl

theorem printed_ofSection (m : Dump) (s : Section) :
    (ofSection m s).printed = ((s.table? m).map Printed.table).toList := by
  unfold ofSection
  cases s.table? m with
  | none => rfl
  | some t => rfl

theorem ending_ofSection (m : Dump) (s : Section) : (ofSection m s).ending = .exit 0 := by
  unfold ofSection
  cases s.table? m with
  | none => rfl
  | some t => rfl

theorem printed_ofAction_all (room : Room) (d : Image) (m : Dump) {parts : List (String × Section)}
    (hx : parts.map (·.2) = Section.all) :
    (ofAction room d m .all).printed =
      (parts.map fun x => ofSection m x.2).flatMap (·.printed) := by
  rw [List.flatMap_map, ← List.flatMap_map (f := Prod.snd) (g := fun s => (ofSection m s).printed),
    hx]
  simp only [printed_ofSection, ← List.filterMap_eq_flatMap_toList, ← List.map_filterMap]
  rfl

/-- A table, if there is one, is all that is printed, and only markup in it ends otherwise. -/
structure ShowsTable (k : Console) (t? : Option Table) (o : Outcome) : Prop where
  printed : o.printed = ((t?.bind k.readTable?).map Printed.table).toList
  ending : o.ending = if t?.all fun t => (k.readTable? t).isSome then .exit 0 else .unshown

theorem ShowsTable.after {k : Console} {t? : Option Table} {o : Outcome} (h : o.ShowsTable k t?)
    (log : List LogLine) : (after log o).ShowsTable k t? :=
  ⟨h.printed, h.ending⟩

theorem showsTable_section (m : Dump) (s : Section) (k : Console) :
    ((ofSection m s).shownOn k).ShowsTable k (s.table? m) := by
  unfold ofSection
  cases s.table? m with
  | none => exact ⟨rfl, rfl⟩
  | some t =>
    have hs : k.show? (.table t) = (k.readTable? t).map Printed.table := rfl
    cases hr : k.readTable? t with
    | none =>
      rw [hr, Option.map_none] at hs
      constructor
      case printed =>
        rw [Option.bind_some, hr, printed_shownOn]
        exact congrArg Prod.fst (Console.showAll_cons_of_none hs [])
      case ending =>
        rw [ending_shownOn_of_not_takes (Console.not_takes_cons_of_none hs), Option.all_some, hr]
        rfl
    | some u =>
      rw [hr, Option.map_some] at hs
      rw [shownOn_print_of_some hs]
      constructor
      case printed =>
        rw [Option.bind_some, hr]
        rfl
      case ending =>
        rw [Option.all_some, hr]
        rfl

/-! ## Outcomes one after the other -/

/-- An outcome is that of others, one after the other up to the first in which the console finds a
fault. If there is none, all end with the same exit code. -/
structure InOrder (parts : List Outcome) (whole : Outcome) : Prop where
  complete : (∀ o ∈ parts, o.ending ≠ .unshown) →
    whole.printed = parts.flatMap (·.printed) ∧
      ∃ code, whole.ending = .exit code ∧ ∀ o ∈ parts, o.ending = .exit code
  cut : ∀ before o behind, parts = before ++ o :: behind →
    (∀ x ∈ before, x.ending ≠ .unshown) → o.ending = .unshown →
    whole.printed = (before ++ [o]).flatMap (·.printed) ∧ whole.ending = .unshown

theorem InOrder.unshown_of_mem {parts : List Outcome} {whole o : Outcome}
    (h : InOrder parts whole) (ho : o ∈ parts) (hu : o.ending = .unshown) :
    whole.ending = .unshown := by
  have hfind : (parts.find? fun o => o.ending = .unshown).isSome :=
    List.find?_isSome.mpr ⟨o, ho, decide_eq_true hu⟩
  obtain ⟨x, hx⟩ := Option.isSome_iff_exists.mp hfind
  obtain ⟨hlast, before, behind, hsplit, hbefore⟩ := List.find?_eq_some_iff_append.mp hx
  refine (h.cut before x behind hsplit (fun y hy he => ?_) (of_decide_eq_true hlast)).2
  simpa [he] using hbefore y hy

theorem Silent.inOrder {o : Outcome} (ho : o.Silent) {parts : List Outcome}
    (hs : ∀ x ∈ parts, x = o) : InOrder parts o := by
  obtain ⟨hp, code, he⟩ := ho
  constructor
  case complete =>
    intro _
    refine ⟨?_, code, he, fun x hx => hs x hx ▸ he⟩
    rw [hp]
    exact (List.flatMap_eq_nil_iff.mpr fun x hx => hs x hx ▸ hp).symm
  case cut =>
    intro before x behind hsplit _ hx
    have hmem : x ∈ parts := hsplit ▸ List.mem_append_right _ List.mem_cons_self
    rw [hs x hmem, he] at hx
    cases hx

/-- Items that were printed in order are shown in order. -/
theorem inOrder_shownOn (log : List LogLine) (k : Console) {parts : List Outcome} {whole : Outcome}
    (hp : whole.printed = parts.flatMap (·.printed)) (he : whole.ending = .exit 0)
    (hx : ∀ o ∈ parts, o.ending = .exit 0) :
    InOrder (parts.map fun o => after log (o.shownOn k)) (after log (whole.shownOn k)) := by
  have hunshown : ∀ {o : Outcome}, o.ending = .exit 0 →
      ((o.shownOn k).ending ≠ .unshown ↔ k.Takes o.printed) := fun h0 =>
    not_iff_comm.mp (ending_shownOn_eq_unshown_iff (by rw [h0]; exact nofun)).symm
  constructor
  case complete =>
    intro h
    have ht : ∀ o ∈ parts, k.Takes o.printed := fun o ho =>
      (hunshown (hx o ho)).mp (h (after log (o.shownOn k)) (List.mem_map.mpr ⟨o, ho, rfl⟩))
    have hw : k.Takes whole.printed := hp ▸ Console.takes_flatMap.mpr ht
    refine ⟨?_, 0, (ending_shownOn_of_takes hw).trans he, ?_⟩
    · rw [List.flatMap_map]
      exact (congrArg (fun ps => (k.showAll ps).1) hp).trans (Console.showAll_flatMap_of_takes ht)
    · rintro _ hm
      obtain ⟨o, ho, rfl⟩ := List.mem_map.mp hm
      exact (ending_shownOn_of_takes (ht o ho)).trans (hx o ho)
  case cut =>
    intro before _ behind hsplit h hlast
    obtain ⟨xs, ys, rfl, rfl, hys⟩ := List.map_eq_append_iff.mp hsplit
    obtain ⟨o, zs, rfl, rfl, -⟩ := List.map_eq_cons_iff.mp hys
    have ht : ∀ x ∈ xs, k.Takes x.printed := fun x hm =>
      (hunshown (hx x (List.mem_append_left _ hm))).mp
        (h (after log (x.shownOn k)) (List.mem_map.mpr ⟨x, hm, rfl⟩))
    have ho : ¬ k.Takes o.printed := fun hto =>
      (hunshown (hx o (List.mem_append_right _ List.mem_cons_self))).mpr hto hlast
    have hw : ¬ k.Takes whole.printed := fun hw =>
      ho (Console.takes_flatMap.mp (hp ▸ hw) o (List.mem_append_right _ List.mem_cons_self))
    refine ⟨?_, ending_shownOn_of_not_takes hw⟩
    have hshown : (xs.map fun o => after log (o.shownOn k)) ++ [after log (o.shownOn k)] =
        (xs ++ [o]).map fun o => after log (o.shownOn k) := by
      rw [List.map_append, List.map_singleton]
    rw [hshown, List.flatMap_map]
    exact (congrArg (fun ps => (k.showAll ps).1) hp).trans
      (Console.showAll_flatMap_of_not_takes ht ho)

/-- A full report shows the tables of a dump in order. -/
theorem inOrder_sections (log : List LogLine) (k : Console) (room : Room) (d : Image) (m : Dump)
    {parts : List (String × Section)} (hx : parts.map (·.2) = Section.all) :
    InOrder (parts.map fun x => after log ((ofSection m x.2).shownOn k))
      (after log ((ofAction room d m .all).shownOn k)) := by
  have horder := inOrder_shownOn log k (printed_ofAction_all room d m hx) rfl
    (List.forall_mem_map.mpr fun x _ => ending_ofSection m x.2)
  rwa [List.map_map] at horder

theorem readTable?_modules_eq_none {k : Console} {m : Dump} {x : Module} {name : String}
    (hx : x ∈ m.modules) (hname : x.name = some name) (h : k.read? name = none) :
    k.readTable? (Table.modules m) = none := by
  refine Console.readTable?_eq_none (List.mem_map_of_mem hx) List.mem_cons_self ?_
  rwa [hname, Option.getD_some]

theorem dumpOf?_twoModules : ∃ m,
    dumpOf? .usual (fun _ => false) (fun _ => .ok Dump.twoModules) "dump.dmp" = some m ∧
    m.modules.map (fun x => (x.record.base, x.name)) =
      [(0x400000, some "a"), (0x7000, some "[/x]")] ∧ m.segments = [] ∧ m.tagged 7 = [] := by
  have hpath : ¬ (Char.ofNat 0 ∈ (tidyPath "dump.dmp").toList ∨ false = true) := by decide
  have hm : (Dump.parse (.file .usual) Dump.twoModules).result =
      .ok (Dump.inPlace Dump.twoModules) :=
    Dump.parse_eq_ok_iff.mpr ⟨Dump.wellFormed_twoModules, rfl⟩
  refine ⟨Dump.inPlace Dump.twoModules, ?_, Dump.inPlace_twoModules⟩
  rw [dumpOf?, if_neg hpath]
  exact congrArg Except.toOption hm

end Outcome

end CrashDump
