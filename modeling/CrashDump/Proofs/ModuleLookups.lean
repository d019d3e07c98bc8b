import CrashDump.Proofs.ExitCodes
import CrashDump.Proofs.GivenOptions
import CrashDump.Proofs.HexNumbers
import CrashDump.Proofs.RoundTrip

/-! # Module lookups

A module is looked up by an address in it or by a part of its name. Of several that match the first
one answers, and the line that shows it gives back its range and its name, as far as the console
shows that as it is. As a part of a part is a part, a shorter name is found no later than a longer
one.
-/
namespace CrashDump

/-! ## First matches -/

section First
variable {α : Type} {P Q : α → Prop} {p : α → Bool} {xs : List α} {i j : Nat} {x y : α}

/-- The item at this index is the first of which the statement holds. -/
def FirstAt (P : α → Prop) (xs : List α) (i : Nat) (x : α) : Prop :=
  xs[i]? = some x ∧ P x ∧ ∀ j < i, ∀ y, xs[j]? = some y → ¬ P y

theorem find?_eq_some_iff_firstAt (hp : ∀ x, p x = true ↔ P x) :
    xs.find? p = some x ↔ ∃ i, FirstAt P xs i x := by
  rw [List.find?_eq_some_iff_getElem]
  constructor
  · rintro ⟨hx, i, hi, rfl, hb⟩
    refine ⟨i, List.getElem?_eq_getElem hi, (hp _).mp hx, ?_⟩
    intro j hj y hy hP
    obtain ⟨hlt, rfl⟩ := List.getElem?_eq_some_iff.mp hy
    have hno := hb j hj
    rw [(hp _).mpr hP] at hno
    cases hno
  · rintro ⟨i, hx, hP, hb⟩
    obtain ⟨hi, rfl⟩ := List.getElem?_eq_some_iff.mp hx
    refine ⟨(hp _).mpr hP, i, hi, rfl, ?_⟩
    intro j hj
    have hno := mt (hp _).mp (hb j hj _ (List.getElem?_eq_getElem (Nat.lt_trans hj hi)))
    rw [Bool.eq_false_of_not_eq_true hno]
    rfl

theorem find?_eq_none_iff_forall (hp : ∀ x, p x = true ↔ P x) :
    xs.find? p = none ↔ ∀ x ∈ xs, ¬ P x := by
  simp only [List.find?_eq_none, hp]

/-- What a weaker statement holds of comes no later. -/
theorem FirstAt.exists_le (hp : ∀ x, p x = true ↔ Q x) (h : FirstAt P xs i x) (hx : Q x) :
    ∃ j ≤ i, ∃ y, FirstAt Q xs j y ∧ xs.find? p = some y := by
  cases hf : xs.find? p with
  | none => exact absurd hx ((find?_eq_none_iff_forall hp).mp hf x (List.mem_of_getElem? h.1))
  | some y =>
    obtain ⟨j, hy⟩ := (find?_eq_some_iff_firstAt hp).mp hf
    have hle : j ≤ i := by
      by_contra hlt
      exact hy.2.2 i (Nat.not_le.mp hlt) x h.1 hx
    exact ⟨j, hle, y, hy, rfl⟩

end First

/-! ## Matching modules -/

namespace Module
variable {x : Module} {part part' : String}

/-- The address lies in the module. The end of a module is not cut off where addresses end. -/
def Covers (a : Int) (x : Module) : Prop :=
  (x.record.base.toNat : Int) ≤ a ∧ a < x.record.endAddress

def Named (part : String) (x : Module) : Prop :=
  ∃ name, x.name = some name ∧ part.toList <:+: name.toList

theorem Named.of_part (h : x.Named part) (hp : part'.toList <:+: part.toList) :
    x.Named part' := by
  obtain ⟨name, hx, hn⟩ := h
  exact ⟨name, hx, hp.trans hn⟩

end Module

namespace Dump

theorem isPart_iff (part cs : List Char) : isPart part cs = true ↔ part <:+: cs := by
  induction cs with
  | nil => rw [isPart, List.isEmpty_iff, List.infix_nil]
  | cons c cs ih =>
    rw [isPart, Bool.or_eq_true, List.isPrefixOf_iff_prefix, ih, List.infix_cons_iff]

theorem findModuleAt_eq (m : Dump) (a : Int) : ∃ p, m.findModuleAt a = m.modules.find? p ∧
    ∀ x, p x = true ↔ x.Covers a :=
  ⟨_, rfl, fun x => by rw [Bool.and_eq_true, decide_eq_true_eq, decide_eq_true_eq, Module.Covers]⟩

theorem findModuleNamed_eq (m : Dump) (part : String) :
    ∃ p, m.findModuleNamed part = m.modules.find? p ∧ ∀ x, p x = true ↔ x.Named part := by
  refine ⟨_, rfl, fun x => ?_⟩
  simp only [Option.any_eq_true, isPart_iff, Module.Named]

/-- A part of a name leads to a module, and a part of that part to none behind it. -/
structure RefinesNames (m : Dump) : Prop where
  first : ∀ part x, m.findModuleNamed part = some x ↔ ∃ i, FirstAt (·.Named part) m.modules i x
  refined : ∀ part part' i x, part'.toList <:+: part.toList →
    FirstAt (·.Named part) m.modules i x →
    ∃ j ≤ i, ∃ y, FirstAt (·.Named part') m.modules j y ∧ m.findModuleNamed part' = some y

theorem refinesNames (m : Dump) : m.RefinesNames := by
  constructor
  case first =>
    intro part x
    obtain ⟨p, hf, hp⟩ := m.findModuleNamed_eq part
    rw [hf, find?_eq_some_iff_firstAt hp]
  case refined =>
    intro part part' i x hpart h
    obtain ⟨p, hf, hp⟩ := m.findModuleNamed_eq part'
    rw [hf]
    exact h.exists_le hp (h.2.1.of_part hpart)

end Dump

/-! ## The line of a module -/

section Line
variable {line front front' : String} {b e b' e' : Nat}

/-- The line ends in a range: the numbers of its two ends in hexadecimal, with zeros before a number
of less than eight digits. -/
def EndsInRange (line front : String) (b e : Nat) : Prop :=
  ∃ bs es, line.toList = front.toList ++ ' ' :: '0' :: 'x' :: (bs ++ '-' :: '0' :: 'x' :: es) ∧
    Numeral 16 (max 8 (Nat.log 16 b + 1)) b bs ∧ Numeral 16 (max 8 (Nat.log 16 e + 1)) e es

theorem eq_nil_of_append_cons {c : Char} {ys ys' zs : List Char} (hy : c ∉ ys)
    (h : c :: ys = zs ++ c :: ys') : zs = [] := by
  cases zs with
  | nil => rfl
  | cons z zs =>
    injection h with _ h
    exact absurd (h ▸ List.mem_append_right zs List.mem_cons_self) hy

/-- A text is split in one way at the last of a character. -/
theorem append_cons_inj {c : Char} {xs xs' ys ys' : List Char} (hy : c ∉ ys) (hy' : c ∉ ys')
    (h : xs ++ c :: ys = xs' ++ c :: ys') : xs = xs' ∧ ys = ys' := by
  have hxs : xs = xs' := by
    rcases List.append_eq_append_iff.mp h with ⟨zs, rfl, hz⟩ | ⟨zs, rfl, hz⟩
    · rw [eq_nil_of_append_cons hy hz, List.append_nil]
    · rw [eq_nil_of_append_cons hy' hz, List.append_nil]
  subst hxs
  injection List.append_cancel_left h with _ h
  exact ⟨rfl, h⟩

theorem notMem_marked {width n : Nat} {ds : List Char} {c : Char} (h : Numeral 16 width n ds)
    (hc : c.toNat < 48) : c ∉ '0' :: 'x' :: ds := by
  simp only [List.mem_cons, not_or]
  refine ⟨?_, ?_, fun hm => Nat.not_lt.mpr (h.le_code (by decide) hm) hc⟩
  · rintro rfl
    exact absurd hc (by decide)
  · rintro rfl
    exact absurd hc (by decide)

theorem eq_of_numeral {width width' n n' : Nat} {ds : List Char} (h : Numeral 16 width n ds)
    (h' : Numeral 16 width' n' ds) : n = n' := by
  obtain rfl := h.length_eq.symm.trans h'.length_eq
  exact h.number_unique (by decide) (by decide) h'

theorem EndsInRange.unique (h : EndsInRange line front b e) (h' : EndsInRange line front' b' e') :
    front = front' ∧ b = b' ∧ e = e' := by
  obtain ⟨bs, es, hl, hb, he⟩ := h
  obtain ⟨bs', es', hl', hb', he'⟩ := h'
  have hsplit : (front.toList ++ ' ' :: '0' :: 'x' :: bs) ++ '-' :: '0' :: 'x' :: es =
      (front'.toList ++ ' ' :: '0' :: 'x' :: bs') ++ '-' :: '0' :: 'x' :: es' := by
    rw [List.append_assoc, List.append_assoc]
    exact hl.symm.trans hl'
  obtain ⟨hstart, hes⟩ := append_cons_inj (notMem_marked he (by decide))
    (notMem_marked he' (by decide)) hsplit
  obtain ⟨hfront, hbs⟩ := append_cons_inj (notMem_marked hb (by decide))
    (notMem_marked hb' (by decide)) hstart
  obtain rfl : bs = bs' := by simpa using hbs
  obtain rfl : es = es' := by simpa using hes
  exact ⟨String.toList_inj.mp hfront, eq_of_numeral hb hb', eq_of_numeral he he'⟩

namespace Module

/-- The name that a line shows; a module without one shows an empty one. -/
def label (x : Module) : String := x.name.getD ""

def rangeText (x : Module) : String :=
  " " ++ Hex.wide x.record.base.toNat 8 ++ "-" ++ Hex.wide x.record.endAddress 8

/-- The line gives back what is shown of the name, and the range of the module, and nothing else. -/
structure ShownBy (x : Module) (front line : String) : Prop where
  shown : EndsInRange line front x.record.base.toNat x.record.endAddress
  only : ∀ front' b e, EndsInRange line front' b e →
    front' = front ∧ b = x.record.base.toNat ∧ e = x.record.endAddress

theorem isInert_rangeText (x : Module) : Markup.isInert x.rangeText := by
  refine Markup.isInert_append (Markup.isInert_append (Markup.isInert_append ?_ ?_) ?_) ?_
  · decide
  · exact Markup.isInert_wide _ _
  · decide
  · exact Markup.isInert_wide _ _

theorem shownBy_append_rangeText (x : Module) (front : String) :
    x.ShownBy front (front ++ x.rangeText) := by
  have h : EndsInRange (front ++ x.rangeText) front x.record.base.toNat x.record.endAddress := by
    refine ⟨Hex.padded x.record.base.toNat 8, Hex.padded x.record.endAddress 8, ?_,
      Hex.numeral_padded 8 _, Hex.numeral_padded 8 _⟩
    have hblank : " ".toList = [' '] := rfl
    have hdash : "-".toList = ['-'] := rfl
    simp only [rangeText, Hex.wide, String.toList_append, String.toList_ofList, hblank, hdash,
      List.append_assoc, List.cons_append, List.nil_append]
  exact ⟨h, fun _ _ _ h' => h'.unique h⟩

end Module

end Line

/-! ## The command for a module -/

namespace Outcome
variable {k : Console} {o : Outcome} {ms : List Module} {P : Module → Prop}

/-- What shows the first of the modules of which a statement holds, or fails where there is none.
The console alone may keep it from that, if it finds fault with the name. -/
structure Finds (k : Console) (o : Outcome) (ms : List Module) (P : Module → Prop) : Prop where
  exits : o.ending = .exit 0 ∨ o.ending = .exit 1 ∨ o.ending = .unshown
  found : o.ending = .exit 0 ↔ ∃ i x front, FirstAt P ms i x ∧ k.read? x.label = some front
  missing : o.ending = .exit 1 ↔ ∀ x ∈ ms, ¬ P x
  unshown : o.ending = .unshown ↔ ∃ i x, FirstAt P ms i x ∧ k.read? x.label = none
  shown : ∀ i x front, FirstAt P ms i x → k.read? x.label = some front →
    ∃ line, o.printed = [.text line] ∧ x.ShownBy front line
  silent : o.ending ≠ .exit 0 → o.printed = []

theorem Finds.after (h : o.Finds k ms P) (log : List LogLine) : (after log o).Finds k ms P :=
  ⟨h.exits, h.found, h.missing, h.unshown, h.shown, h.silent⟩

theorem Finds.reads (h : o.Finds k ms P) {line front : String} {b e : Nat}
    (ho : o.printed = [.text line]) (hl : EndsInRange line front b e) :
    ∃ i x, FirstAt P ms i x ∧ k.read? x.label = some front ∧ b = x.record.base.toNat ∧
      e = x.record.endAddress := by
  have h0 : o.ending = .exit 0 := by
    by_contra hne
    rw [h.silent hne] at ho
    cases ho
  obtain ⟨i, x, front', hx, hr⟩ := h.found.mp h0
  obtain ⟨line', ho', hs⟩ := h.shown i x front' hx hr
  obtain rfl : line = line' := by simpa using ho.symm.trans ho'
  obtain ⟨rfl, rfl, rfl⟩ := hs.only front b e hl
  exact ⟨i, x, hx, hr, rfl, rfl⟩

theorem ofModule_some (x : Module) :
    ofModule (some x) = print (.text (x.label ++ x.rangeText)) := by
  rw [ofModule, Module.rangeText, String.append_assoc, String.append_assoc, String.append_assoc,
    String.append_assoc, String.append_assoc]
  rfl

theorem finds_ofModule (k : Console) {p : Module → Bool} (hp : ∀ x, p x = true ↔ P x) :
    ((ofModule (ms.find? p)).shownOn k).Finds k ms P := by
  cases hf : ms.find? p with
  | none =>
    have hno := (find?_eq_none_iff_forall hp).mp hf
    have hnot : ∀ i x, ¬ FirstAt P ms i x := fun i x hx =>
      hno x (List.mem_of_getElem? hx.1) hx.2.1
    constructor
    case exits => exact .inr (.inl rfl)
    case found => exact iff_of_false nofun fun ⟨i, x, _, hx, _⟩ => hnot i x hx
    case missing => exact iff_of_true rfl hno
    case unshown => exact iff_of_false nofun fun ⟨i, x, hx, _⟩ => hnot i x hx
    case shown => exact fun i x _ hx => absurd hx (hnot i x)
    case silent => exact fun _ => rfl
  | some x =>
    obtain ⟨i, hx⟩ := (find?_eq_some_iff_firstAt hp).mp hf
    have hone : ∀ j y, FirstAt P ms j y → y = x := fun j y hy =>
      Option.some.inj (((find?_eq_some_iff_firstAt hp).mpr ⟨j, hy⟩).symm.trans hf)
    have hmatch : ¬ ∀ y ∈ ms, ¬ P y := fun hno => hno x (List.mem_of_getElem? hx.1) hx.2.1
    have hshow := Console.show?_text_append (k := k) (s := x.label) x.isInert_rangeText
    rw [ofModule_some]
    cases hr : k.read? x.label with
    | none =>
      rw [hr, Option.map_none] at hshow
      have ht : ¬ k.Takes (print (.text (x.label ++ x.rangeText))).printed :=
        Console.not_takes_cons_of_none hshow
      rw [shownOn_of_not_takes ht]
      constructor
      case exits => exact .inr (.inr rfl)
      case found =>
        refine iff_of_false nofun ?_
        rintro ⟨j, y, front, hy, hread⟩
        cases hr.symm.trans (hone j y hy ▸ hread)
      case missing => exact iff_of_false nofun hmatch
      case unshown => exact iff_of_true rfl ⟨i, x, hx, hr⟩
      case shown =>
        intro j y front hy hread
        cases hr.symm.trans (hone j y hy ▸ hread)
      case silent => exact fun _ => congrArg Prod.fst (Console.showAll_cons_of_none hshow [])
    | some front =>
      rw [hr, Option.map_some] at hshow
      rw [shownOn_print_of_some hshow]
      constructor
      case exits => exact .inl rfl
      case found => exact iff_of_true rfl ⟨i, x, front, hx, hr⟩
      case missing => exact iff_of_false nofun hmatch
      case unshown =>
        refine iff_of_false nofun ?_
        rintro ⟨j, y, hy, hread⟩
        cases hr.symm.trans (hone j y hy ▸ hread)
      case shown =>
        intro j y front' hy hread
        obtain rfl := hone j y hy
        obtain rfl := Option.some.inj (hr.symm.trans hread)
        exact ⟨_, rfl, y.shownBy_append_rangeText front⟩
      case silent => exact fun hne => absurd rfl hne

theorem inFolder_of_does {h : Host} {w : Folder} {args : List String} {d : Image} {m : Dump}
    {x : Action} (hx : w.Does h.room args d m x) :
    ∃ log, inFolder h w args = after log ((ofAction h.room d m x).shownOn h.console) := by
  obtain ⟨r, hr, hd, hm, rfl⟩ := hx
  refine ⟨(Dump.parse (.file h.room) d).notices.map LogLine.ofNotice, ?_⟩
  rw [inFolder_of_request hr]
  simp only [ofRequest, hd, hm]
  rfl

variable {h : Host} {w : Folder} {args : List String} {d : Image} {m : Dump}

theorem finds_of_moduleAt {a : Int} (hx : w.Does h.room args d m (.moduleAt a)) :
    (inFolder h w args).Finds h.console m.modules (·.Covers a) := by
  obtain ⟨log, ho⟩ := inFolder_of_does hx
  obtain ⟨p, hf, hp⟩ := m.findModuleAt_eq a
  rw [ho, ofAction, hf]
  exact (finds_ofModule h.console hp).after log

theorem finds_of_moduleNamed {part : String} (hx : w.Does h.room args d m (.moduleNamed part)) :
    (inFolder h w args).Finds h.console m.modules (·.Named part) := by
  obtain ⟨log, ho⟩ := inFolder_of_does hx
  obtain ⟨p, hf, hp⟩ := m.findModuleNamed_eq part
  rw [ho, ofAction, hf]
  exact (finds_ofModule h.console hp).after log

end Outcome

namespace Folder
variable {w : Folder} {path : String} {d : Image}

theorem not_isDirectory_of_contents (h : w.contents path = .ok d) : ¬ w.isDirectory path := by
  rw [contents] at h
  split_ifs at h
  rw [isDirectory]
  cases hr : w.resolve path with
  | error f => exact Bool.false_ne_true
  | ok spot =>
    cases spot with
    | file d => exact Bool.false_ne_true
    | here =>
      simp only [hr] at h
      cases h
    | above =>
      simp only [hr] at h
      cases h

/-- A module of the dump in a file is looked up by whatever is asked, however it is given. -/
theorem does_module {room : Room} {file text : String} {m : Dump} {f : OptionName} {x : Action}
    {values : List (OptionName × String)} {args : List String}
    (hd : w.contents (tidyPath file) = .ok d) (hz : Char.ofNat 0 ∉ (tidyPath file).toList)
    (hm : (Dump.parse (.file room) d).result = .ok m) (hx : Request.Asks f text x)
    (hp : values.Perm [(.file, file), (f, text)]) (h : OptionName.AllGiven values args) :
    w.Does room ("module" :: args) d m x := by
  have hf : ¬ (Char.ofNat 0 ∈ (tidyPath file).toList ∨ w.isDirectory (tidyPath file)) :=
    not_or.mpr ⟨hz, not_isDirectory_of_contents hd⟩
  exact ⟨_, Request.ofCommandLine_module hf hx hp h, hd, hm, rfl⟩

end Folder

/-- A module without a name that ends behind all addresses, and others with a name in it. One name
closes a tag. -/
def overlappingModules : Blueprint where
  reserved := 1
  parts := [.modules [
    ⟨⟨0xFFFFFFFFFFFF0000, 0x20000, 0, 0, 0, ⟨0, 0, 0, 0, 0, 0, 0, 0, 0, 0, 0, 0, 0⟩, ⟨0, 0⟩,
      ⟨0, 0⟩, 0, 0⟩, none⟩,
    ⟨⟨0xFFFFFFFFFFFF0000, 0x1000, 0, 0, 0, ⟨0, 0, 0, 0, 0, 0, 0, 0, 0, 0, 0, 0, 0⟩, ⟨0, 0⟩,
      ⟨0, 0⟩, 0, 0⟩, some "b"⟩,
    ⟨⟨0xFFFFFFFFFFFF0000, 0x1000, 0, 0, 0, ⟨0, 0, 0, 0, 0, 0, 0, 0, 0, 0, 0, 0, 0⟩, ⟨0, 0⟩,
      ⟨0, 0⟩, 0, 0⟩, some "ab"⟩,
    ⟨⟨0xFFFFFFFFFFFF0000, 0x1000, 0, 0, 0, ⟨0, 0, 0, 0, 0, 0, 0, 0, 0, 0, 0, 0, 0⟩, ⟨0, 0⟩,
      ⟨0, 0⟩, 0, 0⟩, some "[/x]"⟩]]

theorem writable_overlappingModules : overlappingModules.Writable where
  streams := by decide
  slots := by decide
  size := by decide +kernel
  parts := by decide

theorem modules_overlappingModules : overlappingModules.dump.modules.map (·.name) =
    [none, some "b", some "ab", some "[/x]"] := by
  decide

theorem firstAt_named {m : Dump} {names : List (Option String)} {i : Nat} {part : String}
    (hm : m.modules.map (·.name) = names) (hi : names[i]? = some (some part))
    (hb : ∀ j < i, ∀ name, names[j]? = some (some name) → ¬ part.toList <:+: name.toList) :
    ∃ x, FirstAt (·.Named part) m.modules i x ∧ x.name = some part := by
  have hname : ∀ j : Nat, names[j]? = m.modules[j]?.map Module.name := by
    intro j
    rw [← hm, List.getElem?_map]
  obtain ⟨x, hx, hpart⟩ := Option.map_eq_some_iff.mp ((hname i).symm.trans hi)
  refine ⟨x, ⟨hx, ⟨part, hpart, List.infix_refl _⟩, ?_⟩, hpart⟩
  rintro j hj y hy ⟨name, hy', hinfix⟩
  refine hb j hj name ?_ hinfix
  rw [hname, hy, Option.map_some, hy']

theorem firstAt_overlappingModules :
    (∃ x, FirstAt (·.Named "ab") overlappingModules.dump.modules 2 x ∧ x.name = some "ab") ∧
    ∃ x, FirstAt (·.Named "[/x]") overlappingModules.dump.modules 3 x ∧ x.name = some "[/x]" := by
  refine ⟨firstAt_named modules_overlappingModules rfl ?_,
    firstAt_named modules_overlappingModules rfl ?_⟩
  · intro j hj name hn
    match j, hj with
    | 0, _ => cases hn
    | 1, _ =>
      cases hn
      decide
  · intro j hj name hn
    match j, hj with
    | 0, _ => cases hn
    | 1, _ =>
      cases hn
      decide
    | 2, _ =>
      cases hn
      decide

end CrashDump
