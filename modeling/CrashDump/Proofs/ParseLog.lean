import CrashDump.Command.Outcome
import CrashDump.Proofs.ListCounts
import Mathlib.Data.List.Basic

/-! # The log of a parse

A parse warns of the lists that it does not take as a whole, in directory order, and of nothing
else. What it says of a list follows from how many records are declared and how many the image holds
from the head of the list on. A list that is cut short is said to be so after just the records that
were read, empty ranges among them.
-/
namespace CrashDump

theorem Notice.message_memory64Capped (declared : Nat) : (memory64Capped declared).message =
    s!"Memory64 list declares {declared} ranges, reading the first 10000" := by
  have hl : toString " ranges, reading the first " ++ toString listLimit =
      " ranges, reading the first 10000" := by decide
  unfold message
  dsimp only
  rw [String.append_assoc, hl]
  rfl

namespace Dump

def cut? (asked held : Nat) : Option Nat := if held < asked then some held else none

/-- After how many records the list at an offset is cut short by the end of the image. Thread lists
and module lists never are. -/
def cutAt? (d : Image) (r : Nat) : (tag : Nat) → Option Nat
  | 5 => cut? (min (d.natAt r 4) 10000) ((d.size - r - 4) / 16)
  | 9 => cut? (min (d.natAt r 8) 10000) ((d.size - r - 16) / 16)
  | 12 => cut? (d.natAt (r + 8) 4) ((d.size - r - 16) / 32)
  | 16 => cut? (min (d.natAt (r + 8) 8) 10000) ((d.size - r - 16) / 48)
  | _ => none

def logAt (d : Image) (r tag : Nat) : List String :=
  let cut := (cutAt? d r tag).toList
  match tag with
  | 5 => cut.map fun n => s!"Memory list truncated after {n} ranges"
  | 9 =>
    let declared := d.natAt r 8
    (if 10000 < declared then
      [s!"Memory64 list declares {declared} ranges, reading the first 10000"] else []) ++
      cut.map fun n => s!"Memory64 list truncated after {n} ranges"
  | 12 => cut.map fun n => s!"Handle data truncated after {n} descriptors"
  | 16 => cut.map fun n => s!"Memory info list truncated after {n} entries"
  | _ => []

theorem logAt_of_not_tag {d : Image} {r tag : Nat}
    (h : ∀ k : StreamKind, tag ≠ k.tag.toNat) : logAt d r tag = [] := by
  unfold logAt
  split
  · exact absurd rfl (h .memoryList)
  · exact absurd rfl (h .memory64List)
  · exact absurd rfl (h .handleData)
  · exact absurd rfl (h .memoryInfoList)
  · rfl

theorem min_of_cut {asked held n : Nat} (h : cut? asked held = some n) :
    min asked held = n ∧ n < asked := by
  rw [cut?] at h
  split_ifs at h with hl
  obtain rfl := Option.some.inj h
  exact ⟨Nat.min_eq_right (Nat.le_of_lt hl), hl⟩

/-- The notice of a list that is taken as far as it goes tells where it is cut short. -/
theorem message_cut (notice : Nat → Notice) (asked held : Nat) :
    (if min asked held < asked then [notice (min asked held)] else []).map Notice.message =
      (cut? asked held).toList.map fun n => (notice n).message := by
  rw [cut?]
  by_cases h : held < asked
  · rw [Nat.min_eq_right (Nat.le_of_lt h), if_pos h, if_pos h]
    rfl
  · rw [Nat.min_eq_left (Nat.le_of_not_lt h), if_neg h, if_neg (Nat.lt_irrefl asked)]
    rfl

end Dump

namespace StreamKind
variable {d : Image} {r : Nat} {k : StreamKind}

theorem taken_eq_min (d : Image) (r : Nat) (k : StreamKind) :
    k.taken d r = min (k.asked d r) ((d.size - r - k.headSize) / k.recordSize) := by
  rw [taken, Nat.sub_sub]

theorem message_shortfall (d : Image) (r : Nat) (k : StreamKind) :
    (k.shortfall (k.declared d r) (k.taken d r)).map Notice.message =
      Dump.logAt d r k.tag.toNat := by
  rw [taken_eq_min]
  cases k with
  | memoryList =>
    rw [asked_of_limited rfl, shortfall, declared, headSize, recordSize, Dump.message_cut]
    rfl
  | memoryInfoList =>
    rw [asked_of_limited rfl, shortfall, declared, headSize, recordSize, Dump.message_cut]
    rfl
  | handleData =>
    rw [asked_of_unlimited rfl, shortfall, declared, headSize, recordSize, Dump.message_cut]
    rfl
  | memory64List =>
    have hcap : (Decoded.capNotice (d.natAt r 8)).map Notice.message =
        if 10000 < d.natAt r 8 then
          [s!"Memory64 list declares {d.natAt r 8} ranges, reading the first 10000"]
        else [] := by
      by_cases h : 10000 < d.natAt r 8
      · have hl : listLimit < d.natAt r 8 := h
        rw [Decoded.capNotice, if_pos hl, if_pos h, List.map_singleton,
          Notice.message_memory64Capped]
      · have hl : ¬ listLimit < d.natAt r 8 := h
        rw [Decoded.capNotice, if_neg hl, if_neg h, List.map_nil]
    rw [asked_of_limited rfl, shortfall, declared, headSize, recordSize, List.map_append, hcap,
      Dump.message_cut]
    rfl
  | _ => rfl

/-- A list is said to be cut short after the records that were taken of it. -/
theorem taken_of_cut {n : Nat} (h : Dump.cutAt? d r k.tag.toNat = some n) :
    k.taken d r = n ∧ n < k.asked d r := by
  rw [taken_eq_min]
  cases k with
  | memoryList =>
    rw [asked_of_limited rfl, declared, headSize, recordSize]
    exact Dump.min_of_cut h
  | memory64List =>
    rw [asked_of_limited rfl, declared, headSize, recordSize]
    exact Dump.min_of_cut h
  | handleData =>
    rw [asked_of_unlimited rfl, declared, headSize, recordSize]
    exact Dump.min_of_cut h
  | memoryInfoList =>
    rw [asked_of_limited rfl, declared, headSize, recordSize]
    exact Dump.min_of_cut h
  | _ => cases h

end StreamKind

namespace Dump
variable {d : Image} {m : Dump} {source : Source}

/-- The log of a parse is that of its directory entries in turn. Each list that it takes is made of
the records read of it, and where the log says after how many it is cut short, that is their
number. -/
theorem parse_log (h : (parse source d).result = .ok m) :
    (parse source d).notices.map LogLine.ofNotice = (m.directory.flatMap fun e =>
        (logAt d e.offset e.tag.toNat).map (LogLine.mk .warning)) ∧
      m.toContents = .ofStreams (m.directory.map fun e => (e.inPlace d).stream) ∧
      ∀ e ∈ m.directory, ∀ k, e.kind? = some k →
        (e.inPlace d).stream = k.firstOf d e.offset (k.taken d e.offset) ∧
        ∀ n, cutAt? d e.offset e.tag.toNat = some n →
          n = k.taken d e.offset ∧ n < k.asked d e.offset := by
  have ht := parse_listsTold h
  have hlog : ∀ e ∈ m.directory, (e.inPlace d).notices.map LogLine.ofNotice =
      (logAt d e.offset e.tag.toNat).map (LogLine.mk .warning) := by
    intro e he
    have hm : (e.inPlace d).notices.map Notice.message = logAt d e.offset e.tag.toNat := by
      cases hk : e.kind? with
      | none =>
        have hn := DirectoryEntry.kind?_eq_none_iff.mp hk
        rw [DirectoryEntry.inPlace, hk, logAt_of_not_tag hn]
        rfl
      | some k =>
        rw [(ht.taken e he k hk).2, DirectoryEntry.kind?_eq_some_iff.mp hk]
        exact StreamKind.message_shortfall d e.offset k
    rw [← hm, List.map_map]
    rfl
  refine ⟨?_, ht.contents, ?_⟩
  · rw [ht.notices, List.map_flatMap]
    exact List.flatMap_congr hlog
  · intro e he k hk
    have hs := congrArg Decoded.stream (ht.taken e he k hk).2
    refine ⟨hs, fun n hn => ?_⟩
    rw [DirectoryEntry.kind?_eq_some_iff.mp hk] at hn
    obtain ⟨hn, hlt⟩ := StreamKind.taken_of_cut hn
    exact ⟨hn.symm, hlt⟩

/-- A memory list of three ranges, the last of which is missing and the one before it is empty. -/
def brokenRanges : Image :=
  loneStream ⟨5, ⟨52, 44⟩⟩ (bytesOfNat 4 3 ++ shortRanges.flatMap Record.pack)

theorem brokenRanges_log : ∃ m, (parse (.file .usual) brokenRanges).result = .ok m ∧
    (parse (.file .usual) brokenRanges).notices.map LogLine.ofNotice =
      [⟨.warning, "Memory list truncated after 2 ranges"⟩] ∧
    m.segments = [⟨0x1000, 4, 44⟩] := by
  have hp : brokenRanges.Holds 44 (bytesOfNat 4 3 ++ shortRanges.flatMap Record.pack) :=
    holds_payload _ _
  have hs : brokenRanges.size = 80 := size_loneStream _ _
  have hn : brokenRanges.natAt 44 4 = 3 := hp.left.natAt (by decide)
  have hr : Record.run MemoryRange brokenRanges 48 2 = shortRanges := Record.run_of_packed hp.right
  have hf : StreamKind.Fits brokenRanges 44 .memoryList := by
    rw [StreamKind.Fits, Image.Fits, hs]
    decide
  have hc : cutAt? brokenRanges 44 5 = some 2 := by
    rw [cutAt?, hn, hs]
    rfl
  have hw : WellFormed brokenRanges := wellFormed_loneStream hf
  have hm : (parse (.file .usual) brokenRanges).result = .ok (inPlace brokenRanges) :=
    parse_eq_ok_iff.mpr ⟨hw, rfl⟩
  have hd : (inPlace brokenRanges).directory = [⟨5, ⟨52, 44⟩⟩] := directoryIn_loneStream _ _
  obtain ⟨hlog, hcontents, hlists⟩ := parse_log hm
  rw [hd] at hlog hcontents hlists
  obtain ⟨hstream, htaken⟩ := hlists _ (List.mem_singleton_self _) .memoryList rfl
  have hl : logAt brokenRanges 44 5 = ["Memory list truncated after 2 ranges"] := by
    rw [logAt, hc]
    rfl
  have ht : StreamKind.taken brokenRanges 44 .memoryList = 2 := (htaken 2 hc).1.symm
  have hone : StreamKind.firstOf brokenRanges 44 (StreamKind.taken brokenRanges 44 .memoryList)
      .memoryList = .segments (Segment.placed shortRanges) := by rw [ht, StreamKind.firstOf, hr]
  refine ⟨_, hm, ?_, ?_⟩
  · rw [hlog, List.flatMap_singleton]
    exact congrArg (List.map (LogLine.mk .warning)) hl
  · rw [hcontents, List.map_singleton, hstream.trans hone]
    rfl

end Dump

end CrashDump
