import CrashDump.Proofs.HexNumbers
import CrashDump.Text.HexDump

/-! # Hex dumps read back

Every line of a hex dump has its columns in the same places, whatever its bytes are, and no byte is
shown as a line's end. So the lines can be told apart, and their columns give back all bytes. Only a
column that is too wide for the text of a field is refused, and text that there is no room for.
-/
namespace CrashDump.HexDump

/-! ## Reading a dump -/

def readPairs : List Char → List UInt8
  | high :: low :: rest =>
    match IntegerLiteral.digit? 16 high, IntegerLiteral.digit? 16 low with
    | some h, some l => UInt8.ofNat (16 * h + l) :: readPairs rest
    | _, _ => []
  | _ => []

/-- The bytes in the hex column of a line. -/
def lineBytes (width : Nat) (line : List Char) : List UInt8 :=
  readPairs (((line.drop 18).take (3 * width)).filter (· ≠ ' '))

structure ShowsLine (width address : Nat) (bytes : List UInt8) (line : List Char) : Prop where
  address : Numeral 16 16 address (line.take 16)
  gap : (line.drop 16).take 2 = [' ', ' ']
  column : ((line.drop 18).take (3 * width)).length = 3 * width
  words : ∃ words blank, (line.drop 18).take (3 * width) =
      List.intercalate [' '] words ++ List.replicate blank ' ' ∧
    List.Forall₂ (fun b word => Numeral 16 2 b.toNat word) bytes words
  space : (line.drop (18 + 3 * width)).take 1 = [' ']
  chars : line.drop (19 + 3 * width) =
    bytes.map fun b => if 0x20 ≤ b.toNat ∧ b.toNat ≤ 0x7E then Char.ofNat b.toNat else '.'

/-- A dump has one line for each full width of bytes and one for the rest, and loses nothing. -/
structure ShowsBytes (width address : Nat) (bytes : List UInt8) (ls : List (List Char)) :
    Prop where
  count : ls.length = (bytes.length + width - 1) / width
  line : ∀ k line, ls[k]? = some line →
    ShowsLine width (address + k * width) ((bytes.drop (k * width)).take width) line
  lossless : ls.flatMap (lineBytes width) = bytes

/-! ## Columns -/

section Columns
variable {width address : Nat} {bytes : List UInt8}

theorem readPairs_byte (b : UInt8) (rest : List Char) :
    readPairs (Hex.byte b ++ rest) = b :: readPairs rest := by
  have hb := b.toNat_lt
  have hdigit : ∀ k < 16, IntegerLiteral.digit? 16 (Nat.digitChar k) = some k := fun k hk =>
    (IntegerLiteral.digit?_eq_some_iff (by decide)).mpr ⟨hk, .inl rfl⟩
  have hv : 16 * (b.toNat / 16) + b.toNat % 16 = b.toNat := by omega
  rw [Hex.byte, List.cons_append, List.singleton_append, readPairs, hdigit _ (by omega),
    hdigit _ (by omega)]
  dsimp only
  rw [hv, UInt8.ofNat_toNat]

theorem readPairs_flatMap_byte (bytes : List UInt8) :
    readPairs (bytes.flatMap Hex.byte) = bytes := by
  induction bytes with
  | nil => rfl
  | cons b bytes ih => rw [List.flatMap_cons, readPairs_byte, ih]

theorem filter_byte (b : UInt8) : (Hex.byte b).filter (· ≠ ' ') = Hex.byte b := by
  apply List.filter_eq_self.mpr
  intro c hc
  have hsep : ' ' ∉ Hex.lowerDigits := by decide
  rw [decide_eq_true_eq]
  rintro rfl
  exact hsep (Hex.mem_byte hc)

/-- The words of a column without what stands between them. -/
theorem filter_words (bytes : List UInt8) :
    (List.intercalate [' '] (bytes.map Hex.byte)).filter (· ≠ ' ') = bytes.flatMap Hex.byte := by
  induction bytes with
  | nil => rfl
  | cons b bytes ih =>
    cases bytes with
    | nil => simpa using filter_byte b
    | cons b' bytes =>
      rw [List.map_cons, List.map_cons, List.intercalate_cons_cons, List.filter_append,
        List.filter_append, filter_byte, ← List.map_cons, ih, List.flatMap_cons]
      rfl

theorem length_words (h : bytes ≠ []) :
    (List.intercalate [' '] (bytes.map Hex.byte)).length + 1 = 3 * bytes.length := by
  induction bytes with
  | nil => exact absurd rfl h
  | cons b bytes ih =>
    cases bytes with
    | nil => rfl
    | cons b' bytes =>
      have hrest := ih (List.cons_ne_nil b' bytes)
      have hb : (Hex.byte b).length = 2 := rfl
      rw [List.map_cons, List.map_cons, List.intercalate_cons_cons, List.length_append,
        List.length_append, hb, ← List.map_cons, List.length_singleton]
      rw [List.length_cons]
      omega

theorem length_column (h : bytes.length ≤ width) :
    (padRight (3 * width) (List.intercalate [' '] (bytes.map Hex.byte))).length = 3 * width := by
  rw [padRight, List.length_append, List.length_replicate]
  by_cases hb : bytes = []
  · rw [hb]
    exact Nat.zero_add _
  · have hl := length_words hb
    omega

theorem lineBytes_eq {line : List Char}
    (h : (line.drop 18).take (3 * width) =
      padRight (3 * width) (List.intercalate [' '] (bytes.map Hex.byte))) :
    lineBytes width line = bytes := by
  have hblank : ∀ k, (List.replicate k ' ').filter (· ≠ ' ') = [] := by
    intro k
    apply List.filter_eq_nil_iff.mpr
    intro c hc
    rw [List.eq_of_mem_replicate hc]
    decide
  rw [lineBytes, h, padRight, List.filter_append, hblank, List.append_nil, filter_words,
    readPairs_flatMap_byte]

theorem visible_eq (b : UInt8) :
    visible b = if 0x20 ≤ b.toNat ∧ b.toNat ≤ 0x7E then Char.ofNat b.toNat else '.' := by
  have hiff : (0x20 ≤ b ∧ b < 0x7F) ↔ (0x20 ≤ b.toNat ∧ b.toNat ≤ 0x7E) := by
    rw [UInt8.le_iff_toNat_le, UInt8.lt_iff_toNat_lt]
    exact and_congr_right fun _ => Nat.lt_succ_iff
  rw [visible, if_congr hiff rfl rfl]

theorem visible_ne_newline (b : UInt8) : visible b ≠ '\n' := by
  have hb := b.toNat_lt
  rw [visible_eq]
  split_ifs with h
  · intro hc
    have hcode := congrArg Char.toNat hc
    rw [char_toNat_ofNat (by omega)] at hcode
    have hnl : '\n'.toNat = 10 := rfl
    omega
  · decide

/-- The parts of a line, by their lengths. -/
theorem line_parts {front column : List Char} (hf : front.length = 16)
    (hc : column.length = 3 * width) (back : List Char) :
    let line := front ++ ' ' :: ' ' :: (column ++ ' ' :: back)
    line.take 16 = front ∧ (line.drop 16).take 2 = [' ', ' '] ∧
      (line.drop 18).take (3 * width) = column ∧ (line.drop (18 + 3 * width)).take 1 = [' '] ∧
      line.drop (19 + 3 * width) = back := by
  have h16 : ∀ rest : List Char, (front ++ rest).drop 16 = rest := fun rest =>
    List.drop_left' hf
  have hcol : ∀ rest : List Char, (column ++ rest).drop (3 * width) = rest := fun rest =>
    List.drop_left' hc
  refine ⟨List.take_left' hf, ?_, ?_, ?_, ?_⟩
  · rw [h16]
    rfl
  · rw [← List.drop_drop (i := 2), h16]
    exact List.take_left' hc
  · rw [← List.drop_drop, ← List.drop_drop (i := 2), h16, List.drop_succ_cons, List.drop_succ_cons,
      List.drop_zero, hcol]
    rfl
  · rw [Nat.add_right_comm 18 1, ← List.drop_drop, ← List.drop_drop, ← List.drop_drop (i := 2), h16,
      List.drop_succ_cons, List.drop_succ_cons, List.drop_zero, hcol]
    rfl

theorem showsLine_line (ha : address < 2 ^ 64) (h : bytes.length ≤ width) :
    ShowsLine width address bytes (line width address bytes) ∧
      lineBytes width (line width address bytes) = bytes := by
  have haddress := Hex.numeral_padded_of_lt (by decide : 0 < 16) ha
  have hcolumn := length_column h
  obtain ⟨h1, h2, h3, h4, h5⟩ := line_parts haddress.length_eq hcolumn (bytes.map visible)
  refine ⟨⟨?_, h2, ?_, ?_, h4, ?_⟩, lineBytes_eq h3⟩
  · exact h1.symm ▸ haddress
  · exact (congrArg List.length h3).trans hcolumn
  · refine ⟨bytes.map Hex.byte, _, h3, ?_⟩
    exact List.forall₂_map_right_iff.mpr (List.forall₂_same.mpr fun b _ => Hex.numeral_byte b)
  · exact h5.trans (List.map_congr_left fun b _ => visible_eq b)

theorem newline_notMem_line (width address : Nat) (bytes : List UInt8) :
    '\n' ∉ line width address bytes := by
  have haddress : '\n' ∉ Hex.padded address 16 := by
    intro hc
    exact absurd ((Hex.numeral_padded 16 address).le_code (by decide) hc) (by decide)
  have hwords : '\n' ∉ List.intercalate [' '] (bytes.map Hex.byte) := by
    intro hc
    have hkept := (List.mem_filter (p := (· ≠ ' '))).mpr ⟨hc, by decide⟩
    rw [filter_words] at hkept
    obtain ⟨b, -, hb⟩ := List.mem_flatMap.mp hkept
    exact absurd (Hex.mem_byte hb) (by decide)
  have hblank : ∀ k, '\n' ∉ List.replicate k ' ' := fun k hc =>
    absurd (List.eq_of_mem_replicate hc) (by decide)
  have hchars : '\n' ∉ bytes.map visible := by
    intro hc
    obtain ⟨b, -, hb⟩ := List.mem_map.mp hc
    exact visible_ne_newline b hb
  simp [line, padRight, haddress, hwords, hblank, hchars]

end Columns

/-! ## Lines -/

section Lines
variable {width address : Nat} {bytes : List UInt8}

theorem lines_cons (hw : 0 < width) (h : bytes ≠ []) : lines width address bytes =
    line width address (bytes.take width) ::
      lines width (address + width : Nat) (bytes.drop width) := by
  have hne : ¬ (width = 0 ∨ bytes = []) := by
    rintro (h0 | hb)
    · omega
    · exact h hb
  rw [lines, dif_neg hne, Int.natCast_add]

theorem lines_nil (width address : Nat) : lines width address [] = [] := by
  rw [lines, dif_pos (.inr rfl)]

/-- The lines by their number, the last one perhaps short. -/
theorem getElem?_lines (hw : 0 < width) (k : Nat) : (lines width address bytes)[k]? =
    if k * width < bytes.length then
      some (line width (address + k * width : Nat) ((bytes.drop (k * width)).take width))
    else none := by
  induction k generalizing address bytes with
  | zero =>
    rw [Nat.zero_mul, Nat.add_zero, List.drop_zero]
    by_cases h : bytes = []
    · subst h
      rw [lines_nil]
      rfl
    · rw [lines_cons hw h, if_pos (List.length_pos_iff.mpr h)]
      rfl
  | succ k ih =>
    by_cases h : bytes = []
    · subst h
      rw [lines_nil]
      rfl
    · have hk : (k + 1) * width = width + k * width := by
        rw [Nat.succ_mul, Nat.add_comm]
      have hlt : k * width < bytes.length - width ↔ width + k * width < bytes.length := by omega
      rw [lines_cons hw h, List.getElem?_cons_succ, ih, List.length_drop, List.drop_drop, hk,
        if_congr hlt rfl rfl, Nat.add_assoc]

theorem length_lines (hw : 0 < width) :
    (lines width address bytes).length = (bytes.length + width - 1) / width := by
  refine eq_of_forall_lt_iff fun k => ?_
  have hget : k < (lines width address bytes).length ↔ k * width < bytes.length := by
    rw [← not_iff_not, Nat.not_lt, ← List.getElem?_eq_none_iff, getElem?_lines hw]
    split_ifs with h <;> simp [h]
  have hdiv : k < (bytes.length + width - 1) / width ↔
      (k + 1) * width ≤ bytes.length + width - 1 := Nat.le_div_iff_mul_le hw
  rw [hget, hdiv, Nat.succ_mul]
  omega

theorem flatMap_lineBytes_lines (hw : 0 < width) (ha : address + bytes.length ≤ 2 ^ 64) :
    (lines width address bytes).flatMap (lineBytes width) = bytes := by
  induction hn : bytes.length using Nat.strong_induction_on generalizing address bytes with
  | _ n ih =>
    by_cases h : bytes = []
    · subst h
      rw [lines_nil]
      rfl
    · have hpos := List.length_pos_iff.mpr h
      have hdrop : (bytes.drop width).length = n - width := by rw [List.length_drop, hn]
      rw [lines_cons hw h, List.flatMap_cons]
      by_cases hle : width ≤ bytes.length
      · have hbound : address + width + (bytes.drop width).length ≤ 2 ^ 64 := by omega
        have hrest := ih (n - width) (by omega) hbound hdrop
        rw [(showsLine_line (by omega) (List.length_take_le width bytes)).2, hrest,
          List.take_append_drop]
      · have hnil : bytes.drop width = [] := List.drop_eq_nil_of_le (by omega)
        rw [(showsLine_line (by omega) (List.length_take_le width bytes)).2, hnil, lines_nil,
          List.take_of_length_le (by omega)]
        exact List.append_nil bytes

theorem showsBytes_lines (hw : 0 < width) (ha : address + bytes.length ≤ 2 ^ 64) :
    ShowsBytes width address bytes (lines width address bytes) := by
  refine ⟨length_lines hw, fun k l hl => ?_, flatMap_lineBytes_lines hw ha⟩
  rw [getElem?_lines hw] at hl
  split_ifs at hl with hk
  obtain rfl := Option.some.inj hl
  exact (showsLine_line (by omega) (List.length_take_le width _)).1

end Lines

/-! ## Dumps -/

section Dumps
variable {room : Room} {width address : Nat} {bytes : List UInt8}

theorem le_length_text (hw : 0 < width) (h : bytes ≠ []) :
    3 * width ≤ (text width address bytes).length := by
  have hc := length_column (List.length_take_le width bytes)
  rw [text, String.length_ofList, lines_cons hw h]
  generalize lines width (address + width : Nat) (bytes.drop width) = ls
  have hl : 3 * width ≤ (line width address (bytes.take width)).length := by
    simp only [line, List.length_append, List.length_cons, hc]
    omega
  cases ls with
  | nil => simpa using hl
  | cons l ls =>
    rw [List.intercalate_cons_cons, List.length_append, List.length_append]
    omega

theorem splitOn_text (hw : 0 < width) (h : bytes ≠ []) :
    (text width address bytes).toList.splitOn '\n' = lines width address bytes := by
  rw [text, String.toList_ofList]
  apply List.splitOn_intercalate
  · intro l hl
    obtain ⟨k, hk⟩ := List.mem_iff_getElem?.mp hl
    rw [getElem?_lines hw] at hk
    split_ifs at hk
    obtain rfl := Option.some.inj hk
    exact newline_notMem_line width _ _
  · rw [lines_cons hw h]
    exact List.cons_ne_nil _ _

theorem dump_nil (hw : 0 < width) : dump room [] address width = .ok "" := by
  rw [dump, if_neg (by omega), if_pos (.inr rfl)]

theorem dump_eq (hw : 0 < width) (h : bytes ≠ []) : dump room bytes address width =
    fieldWidth room (3 * width : Nat) >>= fun _ => inRoom room (text width address bytes) := by
  have hne : ¬ ((width : Int) < 0 ∨ bytes = []) := by
    rintro (h0 | hb)
    · omega
    · exact h hb
  rw [dump, if_neg (by omega), if_neg hne, Int.toNat_natCast, Int.natCast_mul]
  rfl

theorem dump_of_limit_le (hw : 0 < width) (h : bytes ≠ []) (hl : 2 ^ 63 ≤ 3 * width) :
    dump room bytes address width = .error .invalid := by
  rw [dump_eq hw h, fieldWidth_of_limit_le hl]
  rfl

/-- Where there is no room for the column of a line, there is none for the text. -/
theorem dump_of_lt_limit (hw : 0 < width) (h : bytes ≠ []) (hl : 3 * width < 2 ^ 63) :
    dump room bytes address width = inRoom room (text width address bytes) := by
  have ht : 3 * width ≤ (text width address bytes).length := le_length_text hw h
  rw [dump_eq hw h, fieldWidth_of_lt_limit hl]
  split_ifs with hr
  · rw [inRoom, if_pos (hr.trans ht)]
    rfl
  · rfl

/-- Lines of the usual width are no wider than a field, so only their number matters. -/
theorem dump_defaultWidth (room : Room) (bytes : List UInt8) (address : Int) :
    dump room bytes address defaultWidth = inRoom room (text 16 address bytes) := by
  have hp : (48 : Nat) < room.limit := Nat.lt_trans (by decide) room.page
  by_cases hb : bytes = []
  · subst hb
    have ht : text 16 address [] = "" := by rw [text, lines, dif_pos (.inr rfl)]; rfl
    rw [ht, inRoom, if_neg (by simp; omega)]
    rfl
  · have hf : fieldWidth room (3 * defaultWidth) = .ok 48 := by
      have h48 : fieldWidth room (48 : Nat) = if room.limit ≤ 48 then .error .noRoom else .ok 48 :=
        fieldWidth_of_lt_limit (by decide)
      rwa [if_neg (by omega)] at h48
    rw [dump, if_neg (by decide), if_neg (not_or.mpr ⟨by decide, hb⟩), hf]
    rfl

theorem length_text_of_le (ha : address < 2 ^ 64) (h : bytes ≠ []) (hl : bytes.length ≤ width) :
    (text width address bytes).length = 19 + 3 * width + bytes.length := by
  have hpos := List.length_pos_iff.mpr h
  have hone : lines width address bytes = [line width address bytes] := by
    rw [lines_cons (by omega) h, List.take_of_length_le hl, List.drop_of_length_le hl, lines_nil]
  have haddress := (Hex.numeral_padded_of_lt (by decide : 0 < 16) ha).length_eq
  rw [text, String.length_ofList, hone, List.intercalate_singleton, line]
  simp only [List.length_append, List.length_cons, List.length_map, length_column hl, haddress]
  omega

theorem flatMap_lineBytes_of_dump {t : String} (hw : 0 < width)
    (ha : address + bytes.length ≤ 2 ^ 64) (h : dump room bytes address width = .ok t) :
    (t.toList.splitOn '\n').flatMap (lineBytes width) = bytes := by
  by_cases hb : bytes = []
  · subst hb
    rw [dump_nil hw] at h
    obtain rfl := Except.ok.inj h
    simp [lineBytes, readPairs]
  · by_cases hl : 3 * width < 2 ^ 63
    · rw [dump_of_lt_limit hw hb hl, inRoom] at h
      split_ifs at h
      obtain rfl := Except.ok.inj h
      rw [splitOn_text hw hb, flatMap_lineBytes_lines hw ha]
    · rw [dump_of_limit_le hw hb (Nat.not_lt.mp hl)] at h
      cases h

/-- A dump of no bytes is empty. A dump of some is refused where its column of bytes would be too
wide for a field. Otherwise there is a text that shows each byte in its place, and it is what a
dump gives on any machine with room for it. No two inputs have one dump. -/
theorem dump_readsBack (hw : 0 < width) (ha : address + bytes.length ≤ 2 ^ 64) :
    (bytes = [] → ∀ room, dump room bytes address width = .ok "") ∧
    (bytes ≠ [] →
      (2 ^ 63 ≤ 3 * width → ∀ room, dump room bytes address width = .error .invalid) ∧
      (3 * width < 2 ^ 63 → ∃ t : String,
        ShowsBytes width address bytes (t.toList.splitOn '\n') ∧
        ∀ room, dump room bytes address width =
          if room.limit ≤ t.length then .error .noRoom else .ok t)) ∧
    ∀ room room' other t, address + other.length ≤ 2 ^ 64 →
      dump room bytes address width = .ok t → dump room' other address width = .ok t →
      bytes = other := by
  refine ⟨?_, fun hb => ⟨fun hl room => dump_of_limit_le hw hb hl, fun hl => ?_⟩, ?_⟩
  · rintro rfl room
    exact dump_nil hw
  · refine ⟨text width address bytes, ?_, fun room => dump_of_lt_limit hw hb hl⟩
    rw [splitOn_text hw hb]
    exact showsBytes_lines hw ha
  · intro room room' other t ho h h'
    rw [← flatMap_lineBytes_of_dump hw ha h, flatMap_lineBytes_of_dump hw ho h']

/-- Two lines, the last one short, with a byte that would end a line. -/
theorem shortLine_readsBack :
    let bytes := [0x41, 0x42, 0x43, 0x44, 0x0A]
    let t := "0000000000001000  41 42 43 44  ABCD\n0000000000001004  0a           ."
    0 < 4 ∧ 0x1000 + bytes.length ≤ 2 ^ 64 ∧ dump .usual bytes (0x1000 : Nat) (4 : Nat) = .ok t ∧
      ShowsBytes 4 0x1000 bytes (t.toList.splitOn '\n') := by
  intro bytes t
  have hlast : lines 4 (0x1004 : Nat) [0x0A] = [line 4 (0x1004 : Nat) [0x0A]] :=
    (lines_cons (by decide) (List.cons_ne_nil _ _)).trans (congrArg _ (lines_nil 4 0x1008))
  have hlines : lines 4 (0x1000 : Nat) bytes =
      [line 4 (0x1000 : Nat) [0x41, 0x42, 0x43, 0x44], line 4 (0x1004 : Nat) [0x0A]] :=
    (lines_cons (by decide) (List.cons_ne_nil _ _)).trans (congrArg _ hlast)
  have ht : dump .usual bytes (0x1000 : Nat) (4 : Nat) = .ok t := by
    rw [dump_eq (by decide) (List.cons_ne_nil _ _), text, hlines]
    decide +kernel
  have ha : 0x1000 + bytes.length ≤ 2 ^ 64 := by decide
  have hshown := (dump_readsBack (by decide : 0 < 4) ha).2.1
  obtain ⟨t', hs, ht'⟩ := (hshown (List.cons_ne_nil _ _)).2 (by decide)
  have ht' := ht.symm.trans (ht' .usual)
  split_ifs at ht'
  obtain rfl := Except.ok.inj ht'
  exact ⟨by decide, ha, ht, hs⟩

/-- A column too wide for a field. -/
theorem wideLine_refused : 0 < 0x4000000000000000 ∧ 0 + [0].length ≤ 2 ^ 64 ∧
    ∀ room t, dump room [0] (0 : Nat) (0x4000000000000000 : Nat) = .error .invalid ∧
      dump room [0] (0 : Nat) (0x4000000000000000 : Nat) ≠ .ok t :=
  ⟨by decide, by decide, fun _ _ => ⟨rfl, nofun⟩⟩

end Dumps

end CrashDump.HexDump
