import CrashDump.Proofs.DumpInPlace
import CrashDump.Proofs.PackedRecords
import Mathlib.Data.List.Basic

/-! # The order of streams

What the streams of a directory come to depends, for each of the collections that a dump is made
of, on the streams that add to that collection and on their order among themselves. How streams of
different collections stand to one another, what the entries say of their sizes, and entries of no
known kind have no influence.
-/
namespace CrashDump

inductive StreamGroup where
  | threads
  | modules
  | segments
  | regions
  | handles
  | systemInfo
  | exception
  | miscInfo
deriving DecidableEq, Repr

abbrev StreamGroup.Item : StreamGroup → Type
  | threads => Thread
  | modules => Module
  | segments => Segment
  | regions => Region
  | handles => Handle
  | systemInfo => SystemInfo
  | exception => ExceptionInfo
  | miscInfo => MiscInfo

/-- Lists of memory ranges of either kind add to the segments. -/
def StreamKind.group : StreamKind → StreamGroup
  | threadList => .threads
  | moduleList => .modules
  | memoryList => .segments
  | memory64List => .segments
  | memoryInfoList => .regions
  | handleData => .handles
  | systemInfo => .systemInfo
  | exception => .exception
  | miscInfo => .miscInfo

namespace Stream

def group? : Stream → Option StreamGroup
  | threads _ => some .threads
  | modules _ => some .modules
  | segments _ => some .segments
  | regions _ => some .regions
  | handles _ => some .handles
  | systemInfo _ => some .systemInfo
  | exception _ => some .exception
  | miscInfo _ => some .miscInfo
  | unrecognised => none

/-- What a stream adds to a collection. -/
def items (x : Stream) : (g : StreamGroup) → List g.Item
  | .threads => x.threadList
  | .modules => x.moduleList
  | .segments => x.segmentList
  | .regions => x.regionList
  | .handles => x.handleList
  | .systemInfo => x.systemInfo?.toList
  | .exception => x.exception?.toList
  | .miscInfo => x.miscInfo?.toList

theorem items_eq_nil {x : Stream} {g : StreamGroup} (h : x.group? ≠ some g) : x.items g = [] := by
  cases g <;> cases x <;> first | rfl | exact absurd rfl h

def ofGroup (g : StreamGroup) (xs : List Stream) : List Stream :=
  xs.filter fun x => x.group? = some g

variable {g : StreamGroup} {xs ys : List Stream}

theorem flatMap_ofGroup (g : StreamGroup) (xs : List Stream) :
    (ofGroup g xs).flatMap (·.items g) = xs.flatMap (·.items g) := by
  induction xs with
  | nil => rfl
  | cons x xs ih =>
    rw [ofGroup] at ih ⊢
    by_cases h : x.group? = some g
    · rw [List.filter_cons_of_pos (by simpa using h), List.flatMap_cons, List.flatMap_cons, ih]
    · rw [List.filter_cons_of_neg (by simpa using h), List.flatMap_cons, items_eq_nil h,
        List.nil_append, ih]

theorem flatMap_items_of_group (h : ofGroup g xs = ofGroup g ys) :
    xs.flatMap (·.items g) = ys.flatMap (·.items g) := by
  rw [← flatMap_ofGroup, h, flatMap_ofGroup]

end Stream

namespace Contents

theorem ofStreams_eq_items (xs : List Stream) : ofStreams xs =
    { threads := xs.flatMap (·.items .threads)
      modules := xs.flatMap (·.items .modules)
      segments := xs.flatMap (·.items .segments)
      regions := xs.flatMap (·.items .regions)
      handles := xs.flatMap (·.items .handles)
      systemInfo := (xs.flatMap (·.items .systemInfo)).getLast?
      exception := (xs.flatMap (·.items .exception)).getLast?
      miscInfo := (xs.flatMap (·.items .miscInfo)).getLast? } := by
  simp only [ofStreams, List.filterMap_eq_flatMap_toList]
  rfl

/-- What is there depends on the order of streams within each collection only. -/
theorem ofStreams_eq_of_groups {xs ys : List Stream}
    (h : ∀ g, Stream.ofGroup g xs = Stream.ofGroup g ys) : ofStreams xs = ofStreams ys := by
  have hx : ∀ g, xs.flatMap (·.items g) = ys.flatMap (·.items g) :=
    fun g => Stream.flatMap_items_of_group (h g)
  rw [ofStreams_eq_items, ofStreams_eq_items]
  simp only [hx]

/-- Streams that hold just this. -/
def streams (c : Contents) : List Stream :=
  [.threads c.threads, .modules c.modules, .segments c.segments, .regions c.regions,
    .handles c.handles] ++ c.systemInfo.toList.map .systemInfo ++
    c.exception.toList.map .exception ++ c.miscInfo.toList.map .miscInfo

theorem ofStreams_streams (c : Contents) : ofStreams c.streams = c := by
  obtain ⟨ts, ms, ss, rs, hs, info, e, misc⟩ := c
  cases info <;> cases e <;> cases misc <;> simp [streams, ofStreams]

theorem foldl_add (c : Contents) (xs : List Stream) :
    xs.foldl add c = ofStreams (c.streams ++ xs) := by
  rw [← foldl_add_ofStreams, ofStreams_streams]

end Contents

namespace DirectoryEntry
variable {d : Image} {es fs : List DirectoryEntry}

/-- The kind of an entry's stream and where it begins, if it is of a known kind. -/
def located? (e : DirectoryEntry) : Option (StreamKind × UInt32) :=
  e.kind?.map fun k => (k, e.location.rva)

/-- The known streams of one directory are those of the other, in an order that is the same within
each collection. So the one list of them is a permutation of the other (`Rearranged.perm`). -/
def Rearranged (es fs : List DirectoryEntry) : Prop :=
  ∀ g : StreamGroup, (es.filterMap located?).filter (fun x => x.1.group = g) =
    (fs.filterMap located?).filter fun x => x.1.group = g

theorem Rearranged.perm (h : Rearranged es fs) :
    (es.filterMap located?).Perm (fs.filterMap located?) := by
  rw [List.perm_iff_count]
  intro x
  have hx := congrArg (List.count x) (h x.1.group)
  rwa [List.count_filter (by simp), List.count_filter (by simp)] at hx

theorem forall_fits_iff : (∀ e ∈ es, e.Fits d) ↔
    ∀ x ∈ es.filterMap located?, x.1.Fits d x.2.toNat := by
  rw [List.forall_mem_filterMap]
  refine forall₂_congr fun e _ => ?_
  rw [Fits, located?]
  cases e.kind? with
  | none => simp
  | some k => simp

theorem Rearranged.forall_fits_iff (h : Rearranged es fs) :
    (∀ e ∈ es, e.Fits d) ↔ ∀ e ∈ fs, e.Fits d := by
  rw [DirectoryEntry.forall_fits_iff, DirectoryEntry.forall_fits_iff]
  exact forall_congr' fun x => imp_congr_left h.perm.mem_iff

theorem group?_inPlace (d : Image) (r : Nat) (k : StreamKind) :
    (Decoded.inPlace d r k).stream.group? = some k.group := by
  cases k <;> rfl

theorem ofGroup_streams (d : Image) (g : StreamGroup) (es : List DirectoryEntry) :
    Stream.ofGroup g (es.map fun e => (e.inPlace d).stream) =
      ((es.filterMap located?).filter fun x => x.1.group = g).map fun x =>
        (Decoded.inPlace d x.2.toNat x.1).stream := by
  induction es with
  | nil => rfl
  | cons e es ih =>
    rw [Stream.ofGroup] at ih ⊢
    rw [List.map_cons, inPlace]
    cases hk : e.kind? with
    | none =>
      have hl : e.located? = none := by rw [located?, hk, Option.map_none]
      rw [List.filterMap_cons_none hl, List.filter_cons_of_neg (by simp [Stream.group?]), ih]
    | some k =>
      have hl : e.located? = some (k, e.location.rva) := by rw [located?, hk, Option.map_some]
      rw [List.filterMap_cons_some hl]
      by_cases hg : k.group = g
      · rw [List.filter_cons_of_pos (by simpa [group?_inPlace] using hg),
          List.filter_cons_of_pos (by simpa using hg), List.map_cons, ih]
      · rw [List.filter_cons_of_neg (by simpa [group?_inPlace] using hg),
          List.filter_cons_of_neg (by simpa using hg), ih]

theorem Rearranged.ofGroup_streams (h : Rearranged es fs) (d : Image) (g : StreamGroup) :
    Stream.ofGroup g (es.map fun e => (e.inPlace d).stream) =
      Stream.ofGroup g (fs.map fun e => (e.inPlace d).stream) := by
  rw [DirectoryEntry.ofGroup_streams, h g, DirectoryEntry.ofGroup_streams]

end DirectoryEntry

namespace Parse
variable {s t : ParseState} {es fs : List DirectoryEntry}

theorem streams_of_fits (h : ∀ e ∈ es, e.Fits s.cursor.image) (p : Nat) :
    ∃ t, streams es (s.moved p) = .ok () t ∧ t.collected.contents =
      .ofStreams (s.collected.contents.streams ++
        es.map fun e => (e.inPlace s.cursor.image).stream) := by
  have ha := streams_agrees es s p
  rw [Contents.decodeStreams_of_fits h] at ha
  generalize streams es (s.moved p) = y at ha
  cases ha with
  | @taken _ _ t q hc hn hx => exact ⟨t, rfl, by rw [hx, Contents.foldl_add]⟩

theorem streams_of_not_fits (h : ¬ ∀ e ∈ es, e.Fits s.cursor.image) (p : Nat) :
    ∃ f t, streams es (s.moved p) = .error f t := by
  have ha := streams_agrees es s p
  obtain ⟨r, hr⟩ := Contents.decodeStreams_of_not_fits h
  generalize streams es (s.moved p) = y at ha
  generalize Contents.decodeStreams s.cursor.image es = x at ha hr
  cases ha with
  | taken => cases hr
  | @rejected _ _ t hn => exact ⟨_, t, rfl⟩

/-- Both have succeeded and collected the same, or both have failed. -/
inductive SameOutcome : EStateM.Result ParseFailure ParseState Unit →
    EStateM.Result ParseFailure ParseState Unit → Prop
  | taken {t u : ParseState} (h : t.collected.contents = u.collected.contents) :
      SameOutcome (.ok () t) (.ok () u)
  | failed {t u : ParseState} (f g : ParseFailure) : SameOutcome (.error f t) (.error g u)

/-- On one image, whatever came before and wherever the cursors stand, streams that are rearranged
but keep their order within each collection are taken alike. -/
theorem streams_of_rearranged (hi : s.cursor.image = t.cursor.image)
    (hc : s.collected.contents = t.collected.contents)
    (h : DirectoryEntry.Rearranged es fs) (p q : Nat) :
    SameOutcome (streams es (s.moved p)) (streams fs (t.moved q)) := by
  by_cases hf : ∀ e ∈ es, e.Fits s.cursor.image
  · obtain ⟨s', hs, hx⟩ := streams_of_fits hf p
    obtain ⟨t', ht, hy⟩ := streams_of_fits (hi ▸ h.forall_fits_iff.mp hf) q
    rw [hs, ht]
    refine .taken ?_
    rw [hx, hy, hc, hi]
    apply Contents.ofStreams_eq_of_groups
    intro g
    have hg := h.ofGroup_streams t.cursor.image g
    rw [Stream.ofGroup] at hg ⊢
    rw [Stream.ofGroup, List.filter_append, List.filter_append, hg]
    rfl
  · obtain ⟨f, s', hs⟩ := streams_of_not_fits hf p
    obtain ⟨f', t', ht⟩ := streams_of_not_fits (hi ▸ mt h.forall_fits_iff.mpr hf) q
    rw [hs, ht]
    exact .failed f f'

/-- A list of one thread, and behind it a list of memory of either kind. -/
def threeLists : Image :=
  ⟨(Record.pack (1 : UInt32) ++ Record.pack (⟨7, 0, 0, 0, 0, 0, 0, 0, 0⟩ : Thread) ++
    Record.pack (⟨1, 0x20⟩ : Memory64Header) ++ Record.pack (⟨0x1000, 4⟩ : MemoryRange64) ++
    Record.pack (1 : UInt32) ++ Record.pack (⟨0x9000, ⟨6, 0x30⟩⟩ : MemoryRange)).toArray⟩

def threadsFirst : List DirectoryEntry := [⟨3, 44, 0⟩, ⟨9, 32, 44⟩, ⟨5, 20, 76⟩]

/-- The same streams among others, the lists of memory in the same order. -/
def threadsLast : List DirectoryEntry :=
  [⟨9, 0, 44⟩, ⟨0xFFFF, 7, 0xFFFFFFFF⟩, ⟨5, 1, 76⟩, ⟨3, 0, 0⟩, ⟨0, 0, 0⟩]

theorem fits_threadsFirst : ∀ e ∈ threadsFirst, e.Fits threeLists := by
  refine List.forall_mem_cons.mpr ⟨?_, List.forall_mem_cons.mpr ⟨?_,
    List.forall_mem_singleton.mpr ?_⟩⟩
  case refine_1 =>
    have h : threeLists.Fits 0 4 ∧ threeLists.Fits 4 (40 * threeLists.natAt 0 4) := by decide
    exact h
  case refine_2 =>
    have h : threeLists.Fits 44 16 := by decide
    exact h
  case refine_3 =>
    have h : threeLists.Fits 76 4 := by decide
    exact h

theorem threadsFirst_rearranged : DirectoryEntry.Rearranged threadsFirst threadsLast ∧
    SameOutcome
      (streams threadsFirst (ParseState.moved { cursor := .start threeLists .memory } 0))
      (streams threadsLast (ParseState.moved { cursor := .start threeLists (.file .usual) } 16)) ∧
    ∃ t, streams threadsFirst (ParseState.moved { cursor := .start threeLists .memory } 0) =
        .ok () t ∧
      t.collected.contents.threads.map (·.threadId) = [7] ∧
      t.collected.contents.segments = [⟨0x1000, 4, 0x20⟩, ⟨0x9000, 6, 0x30⟩] := by
  have h : DirectoryEntry.Rearranged threadsFirst threadsLast := by
    intro g
    cases g <;> decide
  refine ⟨h, streams_of_rearranged ?_ ?_ h 0 16, ?_⟩
  · rfl
  · rfl
  · obtain ⟨t, ht, hc⟩ := streams_of_fits (s := { cursor := .start threeLists .memory })
      fits_threadsFirst 0
    refine ⟨t, ht, ?_⟩
    rw [hc]
    decide

end Parse

end CrashDump
