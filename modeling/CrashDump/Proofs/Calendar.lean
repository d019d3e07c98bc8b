import CrashDump.Proofs.Numerals
import CrashDump.Report.Table
import Mathlib.Algebra.BigOperators.Intervals
import Mathlib.Algebra.Order.BigOperators.Group.Finset
import Mathlib.Data.String.Basic

/-! # The calendar

A time shown for a dump is one of the Gregorian calendar, and as many seconds after the start of
1970 as the dump's time stamp says. Its text has fixed widths from the year down to the second, so
texts are ordered as the stamps are.
-/
namespace CrashDump

/-! ## Years and months -/

namespace Gregorian

def IsLeap (year : Nat) : Prop := 4 ∣ year ∧ (¬ 100 ∣ year ∨ 400 ∣ year)

instance (year : Nat) : Decidable (IsLeap year) := inferInstanceAs (Decidable (_ ∧ _))

def monthDays (year month : Nat) : Nat :=
  if month = 2 then if IsLeap year then 29 else 28
  else if month ∈ [4, 6, 9, 11] then 30 else 31

/-- The days of all years before one, counted from the start of year 1. -/
def daysBefore (year : Nat) : Nat :=
  365 * (year - 1) + (year - 1) / 4 - (year - 1) / 100 + (year - 1) / 400

theorem isLeap_iff (year : Nat) : isLeap year = true ↔ IsLeap year := by
  simp only [isLeap, IsLeap, Bool.and_eq_true, Bool.or_eq_true, beq_iff_eq, bne_iff_ne,
    Nat.dvd_iff_mod_eq_zero]

theorem yearLength_eq (year : Nat) : yearLength year = if IsLeap year then 366 else 365 :=
  if_congr (isLeap_iff year) rfl rfl

/-- A year has its extra day by the rule for every fourth year, unless the rules for hundreds take
it away. -/
theorem yearLength_add (year : Nat) :
    yearLength year + (if 100 ∣ year then 1 else 0) =
      365 + (if 4 ∣ year then 1 else 0) + if 400 ∣ year then 1 else 0 := by
  have h100 : 100 ∣ year → 4 ∣ year := Nat.dvd_trans (by decide)
  have h400 : 400 ∣ year → 100 ∣ year := Nat.dvd_trans (by decide)
  rw [yearLength_eq]
  by_cases h4 : 4 ∣ year <;> by_cases hc : 100 ∣ year <;> by_cases hq : 400 ∣ year <;>
    simp_all [IsLeap]

/-- A year is over after its days. -/
theorem daysBefore_succ {year : Nat} (h : 0 < year) :
    daysBefore (year + 1) = daysBefore year + yearLength year := by
  obtain ⟨y, rfl⟩ := Nat.exists_eq_succ_of_ne_zero (Nat.ne_of_gt h)
  have hle : y / 100 ≤ y := Nat.div_le_self y 100
  have hone : (if 100 ∣ y + 1 then 1 else 0) ≤ 1 := by split_ifs <;> decide
  have hadd := yearLength_add (y + 1)
  simp only [daysBefore, Nat.succ_eq_add_one, Nat.add_sub_cancel, Nat.succ_div]
  omega

theorem daysBefore_mono : Monotone daysBefore := by
  apply monotone_nat_of_le_succ
  intro y
  rcases Nat.eq_zero_or_pos y with rfl | hy
  · exact Nat.le_refl _
  · rw [daysBefore_succ hy]
    exact Nat.le_add_right _ _

theorem monthLengths_eq (year : Nat) :
    monthLengths year = (List.range' 1 12).map (monthDays year) := by
  have hfeb : (if isLeap year then 29 else 28) = if IsLeap year then 29 else 28 :=
    if_congr (isLeap_iff year) rfl rfl
  rw [monthLengths, hfeb]
  rfl

theorem sum_monthDays (year : Nat) :
    ∑ month ∈ Finset.Ico 1 13, monthDays year month = yearLength year := by
  rw [yearLength_eq]
  by_cases h : IsLeap year <;> simp [Finset.sum_Ico_succ_top, monthDays, h]

end Gregorian

open Gregorian

/-! ## Dates -/

namespace CivilDate

/-- A date that there is. -/
structure IsDate (d : CivilDate) : Prop where
  year : 1 ≤ d.year
  month : 1 ≤ d.month ∧ d.month ≤ 12
  day : 1 ≤ d.day ∧ d.day ≤ monthDays d.year d.month

/-- The days from the start of year 1 to a date. -/
def number (d : CivilDate) : Nat :=
  daysBefore d.year + ∑ month ∈ Finset.Ico 1 d.month, monthDays d.year month + (d.day - 1)

theorem yearOf_eq {year days : Nat} (h : 0 < year) {y r : Nat} (hy : yearOf year days = (y, r)) :
    0 < y ∧ r < yearLength y ∧ daysBefore y + r = daysBefore year + days := by
  -- the years taken off and the days that are left always make up the count
  fun_induction yearOf year days with
  | case1 year days hlt =>
    cases hy
    exact ⟨h, hlt, rfl⟩
  | case2 year days hle ih =>
    obtain ⟨hy0, hr, hsum⟩ := ih (Nat.succ_pos year) hy
    refine ⟨hy0, hr, ?_⟩
    rw [hsum, daysBefore_succ h]
    omega

theorem monthOf_eq (f : Nat → Nat) (first count : Nat) {days m r : Nat}
    (h : days < ∑ month ∈ Finset.Ico first (first + count), f month)
    (hm : monthOf first days ((List.range' first count).map f) = (m, r)) :
    first ≤ m ∧ m < first + count ∧ r < f m ∧
      ∑ month ∈ Finset.Ico first m, f month + r = days := by
  induction count generalizing first days with
  | zero => simp at h
  | succ count ih =>
    rw [List.range'_succ, List.map_cons, monthOf] at hm
    split_ifs at hm with hlt
    · cases hm
      refine ⟨Nat.le_refl _, by omega, hlt, ?_⟩
      rw [Finset.Ico_self, Finset.sum_empty, Nat.zero_add]
    · have hend : first + (count + 1) = first + 1 + count := by omega
      rw [hend, Finset.sum_eq_sum_Ico_succ_bot (by omega)] at h
      obtain ⟨hlo, hhi, hr, hsum⟩ := ih (first + 1) (by omega) hm
      refine ⟨by omega, by omega, hr, ?_⟩
      rw [Finset.sum_eq_sum_Ico_succ_bot (by omega)]
      omega

/-- Counting days off by years and months finds the date that is so many days later. -/
theorem ofDays_eq (days : Nat) :
    (ofDays days).IsDate ∧ (ofDays days).number = daysBefore 1970 + days := by
  obtain ⟨y, r, hy⟩ : ∃ y r, yearOf 1970 days = (y, r) := ⟨_, _, rfl⟩
  obtain ⟨hy0, hr, hsum⟩ := yearOf_eq (by decide) hy
  obtain ⟨m, s, hm⟩ : ∃ m s, monthOf 1 r (monthLengths y) = (m, s) := ⟨_, _, rfl⟩
  have hd : ofDays days = ⟨y, m, s + 1⟩ := by
    simp only [ofDays, hy, hm]
  rw [monthLengths_eq] at hm
  rw [← sum_monthDays] at hr
  obtain ⟨hlo, hhi, hs, hmonth⟩ := monthOf_eq (monthDays y) 1 12 hr hm
  have hlast : m ≤ 12 := Nat.le_of_lt_succ hhi
  rw [hd]
  refine ⟨⟨hy0, ⟨hlo, hlast⟩, ⟨Nat.succ_pos s, hs⟩⟩, ?_⟩
  simp only [number, Nat.add_sub_cancel]
  omega

variable {d e : CivilDate}

theorem IsDate.lt_month (h : d.IsDate) : d.number <
    daysBefore d.year + ∑ month ∈ Finset.Ico 1 (d.month + 1), monthDays d.year month := by
  have hday := h.day
  rw [Finset.sum_Ico_succ_top h.month.1, number]
  omega

theorem IsDate.lt_year (h : d.IsDate) : d.number < daysBefore d.year + yearLength d.year := by
  have hsub : Finset.Ico 1 (d.month + 1) ⊆ Finset.Ico 1 13 :=
    Finset.Ico_subset_Ico_right (Nat.succ_le_succ h.month.2)
  have hle := Finset.sum_le_sum_of_subset (f := monthDays d.year) hsub
  rw [sum_monthDays] at hle
  exact h.lt_month.trans_le (Nat.add_le_add_left hle _)

/-- A later date has a greater number. -/
theorem number_lt (hd : d.IsDate) (h : d.year < e.year ∨ d.year = e.year ∧ (d.month < e.month ∨
      d.month = e.month ∧ d.day < e.day)) : d.number < e.number := by
  rcases h with hy | ⟨hy, hm | ⟨hm, hday⟩⟩
  · have hle : daysBefore (d.year + 1) ≤ daysBefore e.year := daysBefore_mono hy
    rw [daysBefore_succ hd.year] at hle
    have hlt := hd.lt_year.trans_le hle
    exact hlt.trans_le (Nat.le_add_right_of_le (Nat.le_add_right _ _))
  · have hsub : Finset.Ico 1 (d.month + 1) ⊆ Finset.Ico 1 e.month :=
      Finset.Ico_subset_Ico_right hm
    have hle := Finset.sum_le_sum_of_subset (f := monthDays d.year) hsub
    have hlt := hd.lt_month
    rw [hy] at hlt hle
    refine hlt.trans_le ((Nat.add_le_add_left hle _).trans ?_)
    exact Nat.le_add_right _ _
  · have h1 := hd.day.1
    rw [number, number, hy, hm]
    omega

end CivilDate

/-! ## Times -/

namespace CivilTime

/-- A time that there is, on a date that there is. -/
structure IsTime (t : CivilTime) : Prop where
  date : t.date.IsDate
  hour : t.hour < 24
  minute : t.minute < 60
  second : t.second < 60

/-- The seconds from the start of 1970 to a time. -/
def sinceEpoch (t : CivilTime) : Int :=
  ((t.date.number : Int) - (CivilDate.mk 1970 1 1).number) * 86400 + t.hour * 3600 +
    t.minute * 60 + t.second

/-- The text is the time, written as `YYYY-MM-DD HH:mm:ss`. -/
def Shows (t : CivilTime) (s : String) : Prop :=
  ∃ year month day hour minute second, s = String.ofList (year ++ '-' :: (month ++ '-' ::
      (day ++ ' ' :: (hour ++ ':' :: (minute ++ ':' :: second))))) ∧
    Numeral 10 4 t.date.year year ∧ Numeral 10 2 t.date.month month ∧
    Numeral 10 2 t.date.day day ∧ Numeral 10 2 t.hour hour ∧ Numeral 10 2 t.minute minute ∧
    Numeral 10 2 t.second second

theorem isTime_ofSeconds (n : Nat) : (ofSeconds n).IsTime := by
  refine ⟨(CivilDate.ofDays_eq _).1, ?_, ?_, ?_⟩
  · simp only [ofSeconds]
    omega
  · simp only [ofSeconds]
    omega
  · simp only [ofSeconds]
    omega

theorem sinceEpoch_ofSeconds (n : Nat) : (ofSeconds n).sinceEpoch = n := by
  have hdate := (CivilDate.ofDays_eq (n / 86400)).2
  have hepoch : (CivilDate.mk 1970 1 1).number = daysBefore 1970 := rfl
  simp only [sinceEpoch, ofSeconds, hdate, hepoch]
  omega

/-- A stamp of 32 bits does not reach year 10000. -/
theorem year_lt {n : Nat} (h : n < 2 ^ 32) : (ofSeconds n).date.year < 10000 := by
  have hdate := (CivilDate.ofDays_eq (n / 86400)).2
  by_contra hy
  have hle := daysBefore_mono (Nat.not_lt.mp hy)
  have hnumber : daysBefore (ofSeconds n).date.year ≤ (ofSeconds n).date.number :=
    Nat.le_add_right_of_le (Nat.le_add_right _ _)
  have hfar : daysBefore 1970 + n / 86400 < daysBefore 10000 := by
    have h1970 : daysBefore 1970 = 719162 := rfl
    have h10000 : daysBefore 10000 = 3652059 := rfl
    omega
  exact absurd ((hle.trans hnumber).trans_eq hdate) (Nat.not_le.mpr hfar)

theorem numeral_padded {width n : Nat} (hw : 0 < width) (h : n < 10 ^ width) :
    Numeral 10 width n (padded width n) := Numeral.filled_of_lt (by decide) hw h

theorem shows_text {t : CivilTime} (ht : t.IsTime) (hy : t.date.year < 10000) :
    t.Shows t.text := by
  have hmonth := ht.date.month.2
  have hday := ht.date.day.2
  have hdays : monthDays t.date.year t.date.month ≤ 31 := by
    rw [monthDays]
    split_ifs <;> decide
  have hhour := ht.hour
  have hminute := ht.minute
  have hsecond := ht.second
  refine ⟨_, _, _, _, _, _, ?_, numeral_padded (by decide) hy,
    numeral_padded (by decide) (by omega), numeral_padded (by decide) (by omega),
    numeral_padded (by decide) (by omega), numeral_padded (by decide) (by omega),
    numeral_padded (by decide) (by omega)⟩
  simp only [text, List.append_assoc, List.cons_append]

/-! ## Order -/

variable {t u : CivilTime} {s r : String}

/-- A text begins with the field that decides first. -/
theorem lt_of_append_lt {cs ds xs ys : List Char} (hl : cs.length = ds.length)
    (h : cs ++ xs < ds ++ ys) : cs < ds ∨ cs = ds ∧ xs < ys := by
  induction cs generalizing ds with
  | nil =>
    obtain rfl := List.eq_nil_of_length_eq_zero hl.symm
    exact .inr ⟨rfl, h⟩
  | cons c cs ih =>
    obtain ⟨d, ds, rfl⟩ := List.exists_cons_of_length_eq_add_one hl.symm
    rw [List.cons_append, List.cons_append, List.cons_lt_cons_iff] at h
    rw [List.cons_lt_cons_iff]
    rcases h with hlt | ⟨rfl, hrest⟩
    · exact .inl (.inl hlt)
    · rcases ih (Nat.succ.inj hl) hrest with hlt | ⟨rfl, hlt⟩
      · exact .inl (.inr ⟨rfl, hlt⟩)
      · exact .inr ⟨rfl, hlt⟩

theorem lt_of_field_lt {width n m : Nat} {cs ds xs ys : List Char} {x : Char}
    (hc : Numeral 10 width n cs) (hd : Numeral 10 width m ds)
    (h : cs ++ x :: xs < ds ++ x :: ys) : n < m ∨ n = m ∧ xs < ys := by
  rcases lt_of_append_lt (hc.length_eq.trans hd.length_eq.symm) h with hlt | ⟨rfl, hrest⟩
  · exact .inl ((hc.lt_iff (by decide) (by decide) hd).mp hlt)
  · refine .inr ⟨hc.number_unique (by decide) (by decide) hd, ?_⟩
    rcases List.cons_lt_cons_iff.mp hrest with hx | ⟨-, hlt⟩
    · exact absurd hx (Char.lt_irrefl x)
    · exact hlt

theorem eq_of_field_eq {width n m : Nat} {cs ds xs ys : List Char} {x : Char}
    (hc : Numeral 10 width n cs) (hd : Numeral 10 width m ds)
    (h : cs ++ x :: xs = ds ++ x :: ys) : n = m ∧ xs = ys := by
  obtain ⟨rfl, hrest⟩ := List.append_inj h (hc.length_eq.trans hd.length_eq.symm)
  exact ⟨hc.number_unique (by decide) (by decide) hd, List.tail_eq_of_cons_eq hrest⟩

theorem sinceEpoch_lt_of_date (ht : t.IsTime) (h : t.date.number < u.date.number) :
    t.sinceEpoch < u.sinceEpoch := by
  have hhour := ht.hour
  have hminute := ht.minute
  have hsecond := ht.second
  simp only [sinceEpoch]
  omega

/-- A text that comes before another shows an earlier time. -/
theorem sinceEpoch_lt (ht : t.IsTime) (hs : t.Shows s) (hr : u.Shows r) (h : s < r) :
    t.sinceEpoch < u.sinceEpoch := by
  obtain ⟨cs1, cs2, cs3, cs4, cs5, cs6, rfl, h1, h2, h3, h4, h5, h6⟩ := hs
  obtain ⟨ds1, ds2, ds3, ds4, ds5, ds6, rfl, g1, g2, g3, g4, g5, g6⟩ := hr
  rw [String.lt_iff_toList_lt, String.toList_ofList, String.toList_ofList] at h
  -- the first field that differs decides, and no later one can make up for it
  have hminute := ht.minute
  have hsecond := ht.second
  rcases lt_of_field_lt h1 g1 h with hy | ⟨hy, h⟩
  · exact sinceEpoch_lt_of_date ht (CivilDate.number_lt ht.date (.inl hy))
  rcases lt_of_field_lt h2 g2 h with hm | ⟨hm, h⟩
  · exact sinceEpoch_lt_of_date ht (CivilDate.number_lt ht.date (.inr ⟨hy, .inl hm⟩))
  rcases lt_of_field_lt h3 g3 h with hd | ⟨hd, h⟩
  · exact sinceEpoch_lt_of_date ht (CivilDate.number_lt ht.date (.inr ⟨hy, .inr ⟨hm, hd⟩⟩))
  have hdate : t.date.number = u.date.number := by
    rw [CivilDate.number, CivilDate.number, hy, hm, hd]
  simp only [sinceEpoch, hdate]
  rcases lt_of_field_lt h4 g4 h with hh | ⟨hh, h⟩
  · omega
  rcases lt_of_field_lt h5 g5 h with hi | ⟨hi, h⟩
  · omega
  have hlast := (h6.lt_iff (by decide) (by decide) g6).mp h
  omega

/-- One text shows one time. -/
theorem sinceEpoch_unique (hs : t.Shows s) (hr : u.Shows s) : t.sinceEpoch = u.sinceEpoch := by
  obtain ⟨cs1, cs2, cs3, cs4, cs5, cs6, rfl, h1, h2, h3, h4, h5, h6⟩ := hs
  obtain ⟨ds1, ds2, ds3, ds4, ds5, ds6, h, g1, g2, g3, g4, g5, g6⟩ := hr
  obtain ⟨hy, h⟩ := eq_of_field_eq h1 g1 (String.ofList_injective h)
  obtain ⟨hm, h⟩ := eq_of_field_eq h2 g2 h
  obtain ⟨hd, h⟩ := eq_of_field_eq h3 g3 h
  obtain ⟨hh, h⟩ := eq_of_field_eq h4 g4 h
  obtain ⟨hi, rfl⟩ := eq_of_field_eq h5 g5 h
  have hs := h6.number_unique (by decide) (by decide) g6
  simp only [sinceEpoch, CivilDate.number, hy, hm, hd, hh, hi, hs]

section Stamps

variable {n m : Nat} (hn : n < 2 ^ 32) (hm : m < 2 ^ 32)
include hn

theorem shows_ofSeconds : (ofSeconds n).Shows (ofSeconds n).text :=
  shows_text (isTime_ofSeconds n) (year_lt hn)

include hm

theorem text_ofSeconds_inj : (ofSeconds n).text = (ofSeconds m).text ↔ n = m := by
  refine ⟨fun h => ?_, fun h => congrArg (fun k => (ofSeconds k).text) h⟩
  have hsame := sinceEpoch_unique (h ▸ shows_ofSeconds hn) (shows_ofSeconds hm)
  rw [sinceEpoch_ofSeconds, sinceEpoch_ofSeconds] at hsame
  exact Int.ofNat_inj.mp hsame

theorem lt_of_text_ofSeconds_lt (h : (ofSeconds n).text < (ofSeconds m).text) : n < m := by
  have hlt := sinceEpoch_lt (isTime_ofSeconds n) (shows_ofSeconds hn) (shows_ofSeconds hm) h
  rw [sinceEpoch_ofSeconds, sinceEpoch_ofSeconds] at hlt
  exact Int.ofNat_lt.mp hlt

theorem text_ofSeconds_lt_iff : (ofSeconds n).text < (ofSeconds m).text ↔ n < m := by
  refine ⟨lt_of_text_ofSeconds_lt hn hm, fun h => ?_⟩
  rcases lt_trichotomy (ofSeconds n).text (ofSeconds m).text with hlt | heq | hgt
  · exact hlt
  · exact absurd ((text_ofSeconds_inj hn hm).mp heq) (Nat.ne_of_lt h)
  · exact absurd (lt_of_text_ofSeconds_lt hm hn hgt) (Nat.lt_asymm h)

end Stamps

end CivilTime

/-! ## The time of a dump -/

/-- The value of a field in a table of fields. -/
def Table.field? (t : Table) (name : String) : Option String :=
  (t.rows.find? fun row => row.head? == some name).bind (·[1]?)

theorem Table.field?_header (m : Dump) : (Table.header m).field? "TimeDateStamp" =
    some (CivilTime.ofSeconds m.header.timeDateStamp.toNat).text := rfl

/-- The header of a dump shows a time of the calendar, as many seconds after the start of 1970 as
its stamp says. Two dumps show one text just for one stamp, and the earlier text for the earlier
stamp. -/
theorem shownTime_faithful (m : Dump) : ∃ s,
    (Table.header m).field? "TimeDateStamp" = some s ∧
    (∃ t : CivilTime, t.Shows s ∧ t.IsTime ∧ t.sinceEpoch = m.header.timeDateStamp.toNat) ∧
    ∀ m' : Dump, ∃ s', (Table.header m').field? "TimeDateStamp" = some s' ∧
      (s = s' ↔ m.header.timeDateStamp = m'.header.timeDateStamp) ∧
      (s < s' ↔ m.header.timeDateStamp < m'.header.timeDateStamp) := by
  have hm := m.header.timeDateStamp.toNat_lt
  refine ⟨_, Table.field?_header m, ⟨_, CivilTime.shows_ofSeconds hm,
    CivilTime.isTime_ofSeconds _, CivilTime.sinceEpoch_ofSeconds _⟩, fun m' => ?_⟩
  have hm' := m'.header.timeDateStamp.toNat_lt
  refine ⟨_, Table.field?_header m', ?_, ?_⟩
  · rw [CivilTime.text_ofSeconds_inj hm hm', UInt32.toNat_inj]
  · rw [CivilTime.text_ofSeconds_lt_iff hm hm', UInt32.lt_iff_toNat_lt]

end CrashDump
