import CrashDump.Dump.Decode
import CrashDump.Proofs.ImageSlices

/-! # Runs of records

A run of consecutive records takes as many as are asked for and lie wholly in the image. The
length of the run and the place of each record are arithmetic in the offset and the size of
the image.
-/
namespace CrashDump.Record

@[simp] theorem size_uint32 : size UInt32 = 4 := rfl
@[simp] theorem size_header : size Header = 32 := rfl
@[simp] theorem size_directoryEntry : size DirectoryEntry = 12 := rfl
@[simp] theorem size_thread : size Thread = 40 := rfl
@[simp] theorem size_moduleRecord : size ModuleRecord = 108 := rfl
@[simp] theorem size_memoryRange : size MemoryRange = 16 := rfl
@[simp] theorem size_memoryRange64 : size MemoryRange64 = 16 := rfl
@[simp] theorem size_memory64Header : size Memory64Header = 16 := rfl
@[simp] theorem size_regionListHeader : size RegionListHeader = 16 := rfl
@[simp] theorem size_region : size Region = 48 := rfl
@[simp] theorem size_handleListHeader : size HandleListHeader = 16 := rfl
@[simp] theorem size_handleRecord : size HandleRecord = 32 := rfl
@[simp] theorem size_systemRecord : size SystemRecord = 48 := rfl
@[simp] theorem size_exceptionInfo : size ExceptionInfo = 168 := rfl
@[simp] theorem size_miscInfo : size MiscInfo = 44 := rfl

/-- A record that takes up bytes, and no more of them than are read at once. -/
class Readable (α : Type) [Record α] : Prop where
  size_pos : 0 < size α
  size_le : size α ≤ pageSize

instance : Readable UInt32 := ⟨by decide, by decide⟩
instance : Readable Header := ⟨by decide, by decide⟩
instance : Readable DirectoryEntry := ⟨by decide, by decide⟩
instance : Readable Thread := ⟨by decide, by decide⟩
instance : Readable ModuleRecord := ⟨by decide, by decide⟩
instance : Readable MemoryRange := ⟨by decide, by decide⟩
instance : Readable MemoryRange64 := ⟨by decide, by decide⟩
instance : Readable Memory64Header := ⟨by decide, by decide⟩
instance : Readable RegionListHeader := ⟨by decide, by decide⟩
instance : Readable Region := ⟨by decide, by decide⟩
instance : Readable HandleListHeader := ⟨by decide, by decide⟩
instance : Readable HandleRecord := ⟨by decide, by decide⟩
instance : Readable SystemRecord := ⟨by decide, by decide⟩
instance : Readable ExceptionInfo := ⟨by decide, by decide⟩
instance : Readable MiscInfo := ⟨by decide, by decide⟩

section Runs
variable {α : Type} [Record α]

/-- The `count` records from an offset on, whether or not the image holds them. -/
def run (α : Type) [Record α] (d : Image) (off count : Nat) : List α :=
  (List.range count).map fun i => readAt d (off + size α * i)

/-- The number of records that a run takes. -/
def runLength (α : Type) [Record α] (d : Image) (off count : Nat) : Nat :=
  min count ((d.size - off) / size α)

/-- What stops a run that took `taken` records. -/
def runCut (α : Type) [Record α] (d : Image) (off count taken : Nat) : Option ShortRead :=
  if taken < count then some ⟨off + size α * taken, size α, d.size - (off + size α * taken)⟩
  else none

@[simp] theorem run_zero (d : Image) (off : Nat) : run α d off 0 = [] := rfl

theorem run_succ (d : Image) (off count : Nat) :
    run α d off (count + 1) = readAt d off :: run α d (off + size α) count := by
  rw [run, List.range_succ_eq_map, List.map_cons, List.map_map, run, Nat.mul_zero, Nat.add_zero]
  congr 2
  funext i
  simp only [Function.comp_apply, Nat.succ_eq_add_one, Nat.mul_succ]
  congr 1
  omega

theorem run_same {d e : Image} {off off' count : Nat}
    (h : d.Same off e off' (size α * count)) : run α d off count = run α e off' count := by
  apply List.map_congr_left
  intro i hi
  have hm : size α * (i + 1) ≤ size α * count :=
    Nat.mul_le_mul_left _ (List.mem_range.mp hi)
  rw [Nat.mul_succ] at hm
  exact readAt_same (h.part hm)

@[simp] theorem length_run (d : Image) (off count : Nat) : (run α d off count).length = count := by
  simp [run]

theorem runCut_succ (d : Image) (off count taken : Nat) :
    runCut α d off (count + 1) (taken + 1) = runCut α d (off + size α) count taken := by
  have h : off + size α * (taken + 1) = off + size α + size α * taken := by
    rw [Nat.mul_succ]
    omega
  simp only [runCut, h, Nat.add_lt_add_iff_right]

variable [Readable α]

theorem runLength_succ_of_fits {d : Image} {off : Nat} (h : d.Fits off (size α)) (count : Nat) :
    runLength α d off (count + 1) = runLength α d (off + size α) count + 1 := by
  have hs := Readable.size_pos (α := α)
  have hq : (d.size - off) / size α = (d.size - (off + size α)) / size α + 1 := by
    rw [Nat.div_eq_sub_div hs (by omega), Nat.sub_sub]
  rw [runLength, runLength, hq]
  omega

theorem runLength_of_not_fits {d : Image} {off : Nat} (h : ¬ d.Fits off (size α)) (count : Nat) :
    runLength α d off count = 0 := by
  rw [runLength, Nat.div_eq_of_lt (by have := Readable.size_pos (α := α); omega)]
  omega

theorem readRunFrom_eq (d : Image) (taken : List α) (off count : Nat) :
    readRunFrom d taken off count =
      (taken.reverse ++ run α d off (runLength α d off count),
        runCut α d off count (runLength α d off count)) := by
  induction count generalizing taken off with
  | zero => simp [readRunFrom, runLength, runCut]
  | succ count ih =>
    rw [readRunFrom]
    by_cases h : d.Fits off (size α)
    · rw [readAt?_of_fits h]
      simp only
      rw [ih, runLength_succ_of_fits h, run_succ, runCut_succ, List.reverse_cons,
        List.append_assoc, List.singleton_append]
    · rw [readAt?_of_not_fits h, runLength_of_not_fits h]
      simp [runCut]

/-- A run takes what fits and is cut exactly if that is less than was asked for. -/
theorem readRun_eq (d : Image) (off count : Nat) :
    readRun d off count = (run α d off (runLength α d off count),
      runCut α d off count (runLength α d off count)) := by
  rw [readRun, readRunFrom_eq, List.reverse_nil, List.nil_append]

theorem readRun_succ_of_fits {d : Image} {off : Nat} (h : d.Fits off (size α)) (count : Nat) :
    readRun d off (count + 1) =
      ((readAt d off : α) :: (readRun d (off + size α) count).1,
        (readRun (α := α) d (off + size α) count).2) := by
  rw [readRun_eq, readRun_eq, runLength_succ_of_fits h, run_succ, runCut_succ]

theorem readRun_succ_of_not_fits {d : Image} {off : Nat} (h : ¬ d.Fits off (size α))
    (count : Nat) :
    (readRun d off (count + 1) : List α × Option ShortRead) =
      ([], some ⟨off, size α, d.size - off⟩) := by
  rw [readRun_eq, runLength_of_not_fits h, run_zero, runCut, if_pos (Nat.succ_pos count),
    Nat.mul_zero, Nat.add_zero]

theorem runLength_eq_iff {d : Image} {off count : Nat} (h : off ≤ d.size) :
    runLength α d off count = count ↔ d.Fits off (size α * count) := by
  have hq : count ≤ (d.size - off) / size α ↔ size α * count ≤ d.size - off := by
    rw [Nat.le_div_iff_mul_le Readable.size_pos, Nat.mul_comm]
  rw [runLength, Image.Fits]
  omega

theorem readAll_of_fits {d : Image} {off count : Nat} (h : d.Fits off (size α * count)) :
    readAll d off count = .ok (run α d off count) := by
  have hl := (runLength_eq_iff (α := α) (by omega)).mpr h
  rw [readAll, readRun_eq, hl, runCut, if_neg (Nat.lt_irrefl count)]

theorem readAll_of_not_fits {d : Image} {off count : Nat} (h : ¬ d.Fits off (size α * count))
    (hc : off ≤ d.size ∨ 0 < count) :
    (readAll d off count : Except ShortRead (List α)) =
      .error ⟨off + size α * runLength α d off count, size α,
        d.size - (off + size α * runLength α d off count)⟩ := by
  have hlt : runLength α d off count < count := by
    rcases Nat.lt_or_ge d.size off with hd | hd
    · rw [runLength_of_not_fits (by have := Readable.size_pos (α := α); omega)]
      omega
    · have hne := mt (runLength_eq_iff hd).mp h
      have hle : runLength α d off count ≤ count := Nat.min_le_left _ _
      omega
  rw [readAll, readRun_eq, runCut, if_pos hlt]

end Runs

end CrashDump.Record
