import CrashDump.Command.Outcome
import CrashDump.Proofs.HexNumbers

/-! # Outcomes on a console

A console shows items one after the other until it finds fault with one. So what it shows of several
lists of items is what it shows of each, up to the first that it does not show as a whole, and an
outcome changes on the console only where items were printed.
-/
namespace CrashDump

/-! ## Text without markup -/

namespace Markup
variable {s t : String} {cs ds : List Char}

theorem isPlain_of_isInert (h : isInert t) : isPlain t := by
  have hc := List.all_eq_true.mp h
  have hcolon : ':' ∉ t.toList := fun hm => absurd (hc _ hm) (by decide)
  rw [isPlain, Bool.and_eq_true, decide_eq_true_eq, List.count_eq_zero_of_not_mem hcolon]
  refine ⟨List.all_eq_true.mpr fun c hm => ?_, Nat.zero_le 1⟩
  have hx := hc c hm
  simp only [Bool.and_eq_true] at hx ⊢
  exact hx.1.1

theorem isInert_append (hs : isInert s) (ht : isInert t) : isInert (s ++ t) := by
  rw [isInert, String.toList_append, List.all_append]
  exact Bool.and_eq_true_iff.mpr ⟨hs, ht⟩

/-- The mark of a number and its digits are no markup. -/
theorem isInert_marked {ds : List Char} (h : ∀ x ∈ ds, x ∈ Hex.lowerDigits) :
    Markup.isInert (String.ofList ('0' :: 'x' :: ds)) := by
  have hd : Hex.lowerDigits.all
      (fun c => Markup.isShown c && c != '[' && c != ']' && c != ':') = true := by decide
  rw [Markup.isInert, String.toList_ofList, List.all_cons, List.all_cons]
  exact List.all_eq_true.mpr fun x hx => List.all_eq_true.mp hd x (h x hx)

theorem isInert_wide (n width : Nat) : isInert (Hex.wide n width) := by
  obtain ⟨ks, hds, -, hk, -⟩ := Hex.numeral_padded width n
  rw [Hex.wide]
  refine isInert_marked fun x hx => ?_
  rw [hds] at hx
  obtain ⟨j, hj, rfl⟩ := List.mem_map.mp hx
  exact Hex.digitChar_mem j (hk j hj)

/-- Whether a tag is closed in a text. -/
def closesTag : List Char → Bool
  | [] => false
  | c :: cs => (c == '[' && cs.head? == some '/' && cs.contains ']') || closesTag cs

theorem closesTag_of_notMem (h : '[' ∉ cs) : closesTag cs = false := by
  induction cs with
  | nil => rfl
  | cons c cs ih =>
    obtain ⟨hc, hcs⟩ := not_or.mp (mt List.mem_cons.mpr h)
    have hne : (c == '[') = false := beq_false_of_ne (Ne.symm hc)
    rw [closesTag, hne, ih hcs]
    rfl

/-- Text without brackets closes no tag. -/
theorem closesTag_append (hopen : '[' ∉ ds) (hclose : ']' ∉ ds) :
    closesTag (cs ++ ds) = closesTag cs := by
  induction cs with
  | nil => exact closesTag_of_notMem hopen
  | cons c cs ih =>
    have hc : (cs ++ ds).contains ']' = cs.contains ']' := by
      simp [hclose]
    rw [List.cons_append, closesTag, closesTag, ih, hc]
    cases cs with
    | nil => simp
    | cons b cs => rfl

theorem notMem_of_isPlain (h : isPlain s) : '[' ∉ s.toList := by
  intro hm
  have hc := List.all_eq_true.mp (Bool.and_eq_true_iff.mp h).1 _ hm
  exact absurd hc (by decide)

theorem notMem_of_isInert (h : isInert t) : '[' ∉ t.toList ∧ ']' ∉ t.toList := by
  have hc := List.all_eq_true.mp h
  exact ⟨fun hm => absurd (hc _ hm) (by decide), fun hm => absurd (hc _ hm) (by decide)⟩

end Markup

/-! ## What is shown -/

namespace Console
variable {k : Console} {p q : Printed} {ps qs : List Printed}

/-- All of the items are shown. -/
def Takes (k : Console) (ps : List Printed) : Prop := (k.showAll ps).2 = true

theorem showAll_cons_of_some (h : k.show? p = some q) (ps : List Printed) :
    k.showAll (p :: ps) = (q :: (k.showAll ps).1, (k.showAll ps).2) := by
  rw [showAll, h]

theorem showAll_cons_of_none (h : k.show? p = none) (ps : List Printed) :
    k.showAll (p :: ps) = ([], false) := by
  rw [showAll, h]

theorem takes_cons_of_some (h : k.show? p = some q) : k.Takes (p :: ps) ↔ k.Takes ps := by
  rw [Takes, showAll_cons_of_some h, Takes]

theorem not_takes_cons_of_none (h : k.show? p = none) : ¬ k.Takes (p :: ps) := by
  rw [Takes, showAll_cons_of_none h]
  exact Bool.false_ne_true

theorem takes_nil (k : Console) : k.Takes [] := rfl

theorem takes_iff : k.Takes ps ↔ ∀ p ∈ ps, k.show? p ≠ none := by
  induction ps with
  | nil => exact iff_of_true k.takes_nil (List.forall_mem_nil _)
  | cons p ps ih =>
    rw [List.forall_mem_cons]
    cases h : k.show? p with
    | none => exact iff_of_false (not_takes_cons_of_none h) fun hx => hx.1 rfl
    | some q =>
      rw [takes_cons_of_some h, ih]
      exact (and_iff_right (Option.some_ne_none q)).symm

/-- Behind items that are all shown, the others are shown like on their own. -/
theorem showAll_append_of_takes (h : k.Takes ps) (qs : List Printed) :
    (k.showAll (ps ++ qs)).1 = (k.showAll ps).1 ++ (k.showAll qs).1 := by
  induction ps with
  | nil => rfl
  | cons p ps ih =>
    cases hp : k.show? p with
    | none => exact absurd h (not_takes_cons_of_none hp)
    | some q =>
      rw [List.cons_append, showAll_cons_of_some hp, showAll_cons_of_some hp, List.cons_append,
        ih ((takes_cons_of_some hp).mp h)]

/-- Items behind one with a fault are not shown. -/
theorem showAll_append_of_not_takes (h : ¬ k.Takes ps) (qs : List Printed) :
    (k.showAll (ps ++ qs)).1 = (k.showAll ps).1 := by
  induction ps with
  | nil => exact absurd k.takes_nil h
  | cons p ps ih =>
    cases hp : k.show? p with
    | none => rw [List.cons_append, showAll_cons_of_none hp, showAll_cons_of_none hp]
    | some q =>
      rw [List.cons_append, showAll_cons_of_some hp, showAll_cons_of_some hp,
        ih (mt (takes_cons_of_some hp).mpr h)]

section FlatMap
variable {ι : Type} {items : ι → List Printed} {xs ys : List ι} {x : ι}

theorem takes_flatMap : k.Takes (xs.flatMap items) ↔ ∀ x ∈ xs, k.Takes (items x) := by
  simp only [takes_iff, List.mem_flatMap]
  exact ⟨fun h x hx p hp => h p ⟨x, hx, hp⟩, fun h p ⟨x, hx, hp⟩ => h x hx p hp⟩

theorem showAll_flatMap_of_takes (h : ∀ x ∈ xs, k.Takes (items x)) :
    (k.showAll (xs.flatMap items)).1 = xs.flatMap fun x => (k.showAll (items x)).1 := by
  induction xs with
  | nil => rfl
  | cons x xs ih =>
    obtain ⟨hx, hxs⟩ := List.forall_mem_cons.mp h
    rw [List.flatMap_cons, showAll_append_of_takes hx, ih hxs, List.flatMap_cons]

/-- Lists of items are shown up to the first with a fault in it. -/
theorem showAll_flatMap_of_not_takes (h : ∀ x ∈ xs, k.Takes (items x))
    (hx : ¬ k.Takes (items x)) : (k.showAll ((xs ++ x :: ys).flatMap items)).1 =
      (xs ++ [x]).flatMap fun x => (k.showAll (items x)).1 := by
  rw [List.flatMap_append, List.flatMap_cons, showAll_append_of_takes (takes_flatMap.mpr h),
    showAll_flatMap_of_takes h, showAll_append_of_not_takes hx, List.flatMap_append,
    List.flatMap_singleton]

end FlatMap

/-- Items that are shown as they are. -/
theorem showAll_eq_self (h : ∀ p ∈ ps, k.show? p = some p) : k.showAll ps = (ps, true) := by
  induction ps with
  | nil => rfl
  | cons p ps ih =>
    obtain ⟨hp, hps⟩ := List.forall_mem_cons.mp h
    rw [showAll_cons_of_some hp, ih hps]

theorem mapM_eq_none {α β : Type} {f : α → Option β} {xs : List α} {x : α} (hx : x ∈ xs)
    (h : f x = none) : xs.mapM f = none := by
  induction xs with
  | nil => cases hx
  | cons y ys ih =>
    rw [List.mapM_cons]
    cases hy : f y with
    | none => rfl
    | some z =>
      rcases List.mem_cons.mp hx with rfl | hm
      · cases hy.symm.trans h
      · rw [ih hm]
        rfl

/-- One cell is enough for a table not to be shown. -/
theorem readTable?_eq_none {t : Table} {row : List String} {s : String} (hr : row ∈ t.rows)
    (hs : s ∈ row) (h : k.read? s = none) : k.readTable? t = none := by
  rw [readTable?, mapM_eq_none hr (mapM_eq_none hs h)]
  cases k.read? t.title with
  | none => rfl
  | some title =>
    cases t.columns.mapM k.read? with
    | none => rfl
    | some columns => rfl

theorem show?_text_of_isPlain {s : String} (h : Markup.isPlain s) :
    k.show? (.text s) = some (.text s) := by
  rw [show?, k.plain s h]
  rfl

/-- Text without markup is added to what is shown of the text before it. -/
theorem show?_text_append {s t : String} (h : Markup.isInert t) :
    k.show? (.text (s ++ t)) = (k.read? s).map fun front => .text (front ++ t) := by
  rw [show?, k.inert s t h, Option.map_eq_map, Option.map_map]
  rfl

/-! ## Text as it is -/

theorem mapM_read?_verbatim (row : List String) : row.mapM verbatim.read? = some row := by
  have h := List.mapM_pure (m := Option) (l := row) (f := fun s : String => s)
  rwa [List.map_id'] at h

theorem readTable?_verbatim (t : Table) : verbatim.readTable? t = some t := by
  obtain ⟨title, columns, rows⟩ := t
  have hrows : (rows.mapM fun row => row.mapM verbatim.read?) = some rows := by
    have hf : (fun row : List String => row.mapM verbatim.read?) = fun row => pure row :=
      funext mapM_read?_verbatim
    rw [hf, List.mapM_pure, List.map_id']
    rfl
  rw [readTable?, mapM_read?_verbatim, hrows]
  rfl

theorem show?_verbatim (p : Printed) : verbatim.show? p = some p := by
  cases p with
  | text s => rfl
  | table t =>
    rw [show?, readTable?_verbatim]
    rfl

/-! ## Closing tags -/

/-- Finds a fault in every closing tag, and takes other text as it is. -/
def strict : Console where
  read? s := if Markup.closesTag s.toList then none else some s
  plain s h := by rw [Markup.closesTag_of_notMem (Markup.notMem_of_isPlain h)]; rfl
  inert s t h := by
    obtain ⟨hopen, hclose⟩ := Markup.notMem_of_isInert h
    rw [String.toList_append, Markup.closesTag_append hopen hclose]
    split_ifs with hs
    · rfl
    · rfl

example : strict.read? "[/x]" = none := by decide

end Console

namespace Outcome
variable {k : Console} {o : Outcome}

theorem shownOn_of_takes (h : k.Takes o.printed) :
    o.shownOn k = { o with printed := (k.showAll o.printed).1 } := by
  rw [shownOn]
  exact congrArg (fun e => Outcome.mk (k.showAll o.printed).1 e o.usage o.log) (if_pos h)

theorem shownOn_of_not_takes (h : ¬ k.Takes o.printed) :
    o.shownOn k = { o with printed := (k.showAll o.printed).1, ending := .unshown } := by
  rw [shownOn]
  exact congrArg (fun e => Outcome.mk (k.showAll o.printed).1 e o.usage o.log) (if_neg h)

theorem printed_shownOn (o : Outcome) (k : Console) :
    (o.shownOn k).printed = (k.showAll o.printed).1 := rfl

theorem ending_shownOn_of_takes (h : k.Takes o.printed) : (o.shownOn k).ending = o.ending := by
  rw [shownOn_of_takes h]

theorem ending_shownOn_of_not_takes (h : ¬ k.Takes o.printed) :
    (o.shownOn k).ending = .unshown := by
  rw [shownOn_of_not_takes h]

theorem ending_shownOn_eq_unshown_iff (h : o.ending ≠ .unshown) :
    (o.shownOn k).ending = .unshown ↔ ¬ k.Takes o.printed := by
  by_cases ht : k.Takes o.printed
  · rw [ending_shownOn_of_takes ht]
    exact iff_of_false h (not_not.mpr ht)
  · exact iff_of_true (ending_shownOn_of_not_takes ht) ht

theorem shownOn_eq_self (h : ∀ p ∈ o.printed, k.show? p = some p) : o.shownOn k = o := by
  have hx := Console.showAll_eq_self h
  have ht : k.Takes o.printed := congrArg Prod.snd hx
  rw [shownOn_of_takes ht, hx]

/-- What prints nothing comes to the same on every console. -/
theorem shownOn_of_silent (h : o.printed = []) (k : Console) : o.shownOn k = o :=
  shownOn_eq_self fun _ hp => absurd (h ▸ hp) List.not_mem_nil

theorem shownOn_verbatim (o : Outcome) : o.shownOn .verbatim = o :=
  shownOn_eq_self fun p _ => Console.show?_verbatim p

theorem shownOn_after (log : List LogLine) (o : Outcome) (k : Console) :
    (after log o).shownOn k = after log (o.shownOn k) := rfl

theorem shownOn_print_of_some {p q : Printed} (h : k.show? p = some q) :
    (print p).shownOn k = print q := by
  have ht : k.Takes (print p).printed := (Console.takes_cons_of_some h).mpr k.takes_nil
  rw [shownOn_of_takes ht]
  exact congrArg (fun r => Outcome.mk r.1 (.exit 0) none []) (Console.showAll_cons_of_some h [])

/-- On a console comes out what it makes of the outcome for one that takes text as it is. -/
theorem ofCommandLine_eq_shownOn (h : Host) (isDirectory : String → Bool)
    (contents : String → Except FileFault Image) (args : List String) :
    ofCommandLine h isDirectory contents args =
      (ofCommandLine ⟨h.room, .verbatim⟩ isDirectory contents args).shownOn h.console := by
  rw [ofCommandLine, ofCommandLine]
  cases Request.ofCommandLine isDirectory args with
  | error u => rfl
  | ok r =>
    dsimp only
    rw [shownOn_verbatim]

end Outcome

end CrashDump
