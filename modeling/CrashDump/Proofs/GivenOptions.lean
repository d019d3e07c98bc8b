import CrashDump.Command.Request
import Mathlib.Data.List.Permutation
import Mathlib.Data.List.TakeWhile

/-! # Given options

The value of an option is given behind its short or its long name, in an argument of its own or in
the same one. A command is run with the values that it is given, in whichever of these ways, and
takes nothing else from its arguments.
-/
namespace CrashDump

namespace OptionName
variable {f g : OptionName} {allowed : List OptionName}

/-- The arguments by which an option is given a value. -/
inductive Gives (f : OptionName) (value : String) : List String → Prop
  | short : Gives f value [String.ofList ['-', f.short], value]
  | joined (h : value ≠ "") : Gives f value [String.ofList ('-' :: f.short :: value.toList)]
  | long : Gives f value [f.long, value]
  | equals : Gives f value [f.long ++ "=" ++ value]

/-- Nothing but values for options, each given by arguments of its own. -/
inductive AllGiven : List (OptionName × String) → List String → Prop
  | nil : AllGiven [] []
  | cons {f : OptionName} {value : String} {args rest : List String} {values : List (OptionName × String)}
      (h : Gives f value args) (hs : AllGiven values rest) :
      AllGiven ((f, value) :: values) (args ++ rest)

theorem short_injective (h : f.short = g.short) : f = g := by
  cases f <;> cases g <;> first | rfl | exact absurd h (by decide)

theorem long_injective (h : f.long.toList = g.long.toList) : f = g := by
  cases f <;> cases g <;> first | rfl | exact absurd h (by decide)

theorem short_ne (f : OptionName) : f.short ≠ '-' ∧ f.short ≠ '=' := by
  cases f <;> decide

theorem long_eq (f : OptionName) : ∃ c cs, f.long.toList = '-' :: '-' :: c :: cs ∧
    f.long.toList.all (· ≠ '=') = true := by
  cases f <;> exact ⟨_, _, rfl, by decide⟩

theorem find?_short (h : f ∈ allowed) : (allowed.find? fun g => g.short == f.short) = some f := by
  cases hx : allowed.find? fun g => g.short == f.short with
  | none => exact absurd (beq_self_eq_true f.short) (List.find?_eq_none.mp hx f h)
  | some g =>
    have hg := List.find?_some hx
    exact congrArg some (short_injective (eq_of_beq hg))

theorem long?_long (h : f ∈ allowed) : Dashed.long? allowed f.long.toList = some f := by
  rw [Dashed.long?]
  cases hx : allowed.find? fun g => g.long.toList == f.long.toList with
  | none => exact absurd (beq_self_eq_true f.long.toList) (List.find?_eq_none.mp hx f h)
  | some g =>
    have hg := List.find?_some hx
    exact congrArg some (long_injective (eq_of_beq hg))

/-- A short name does not begin any long one. -/
theorem long?_short (allowed : List OptionName) (f : OptionName) (cs : List Char) :
    Dashed.long? allowed ('-' :: f.short :: cs) = none := by
  rw [Dashed.long?, List.find?_eq_none]
  intro g _ hg
  obtain ⟨c, cs, hlong, -⟩ := g.long_eq
  rw [hlong, beq_iff_eq] at hg
  injection hg with _ hg
  injection hg with hg _
  exact f.short_ne.1 hg.symm

theorem ofArgument_short (h : f ∈ allowed) (value : List Char) :
    Dashed.ofArgument allowed ('-' :: f.short :: value) =
      if value.isEmpty then .bare f else .valued f (String.ofList value) := by
  obtain ⟨hdash, hequals⟩ := f.short_ne
  have hname : ('-' :: f.short :: value).takeWhile (· ≠ '=') =
      '-' :: f.short :: value.takeWhile (· ≠ '=') := by
    rw [List.takeWhile_cons_of_pos (by decide), List.takeWhile_cons_of_pos (by simpa using hequals)]
  have hhelp : ¬ '-' :: f.short :: value = "--help".toList := by
    intro hx
    injection hx with _ hx
    injection hx with hx _
    exact hdash hx
  unfold Dashed.ofArgument
  simp only [hname, long?_short, if_neg hhelp, find?_short h]

theorem ofArgument_long (h : f ∈ allowed) :
    Dashed.ofArgument allowed f.long.toList = .bare f := by
  obtain ⟨-, -, -, hequals⟩ := f.long_eq
  have hname : f.long.toList.takeWhile (· ≠ '=') = f.long.toList :=
    List.takeWhile_eq_self_iff.mpr (List.all_eq_true.mp hequals)
  unfold Dashed.ofArgument
  simp only [hname, long?_long h, Nat.lt_irrefl, if_false]

theorem ofArgument_equals (h : f ∈ allowed) (value : List Char) :
    Dashed.ofArgument allowed (f.long.toList ++ '=' :: value) = .valued f (String.ofList value) := by
  obtain ⟨-, -, -, hequals⟩ := f.long_eq
  have hname : (f.long.toList ++ '=' :: value).takeWhile (· ≠ '=') = f.long.toList := by
    rw [List.takeWhile_append_of_pos (List.all_eq_true.mp hequals),
      List.takeWhile_cons_of_neg (by simp), List.append_nil]
  have hlt : f.long.toList.length < (f.long.toList ++ '=' :: value).length := by simp
  unfold Dashed.ofArgument
  simp only [hname, long?_long h, if_pos hlt]
  rw [← List.drop_drop, List.drop_left]
  rfl

/-! ## Scanning -/

variable {value arg : String} {args rest : List String} {values : List (OptionName × String)}

theorem scan_of_valued (hd : Arguments.isDashed arg.toList = true) (hne : arg ≠ "--")
    (h : Dashed.ofArgument allowed arg.toList = .valued f value) :
    Arguments.scan allowed (arg :: rest) =
      (fun a => { a with values := (f, value) :: a.values }) <$> Arguments.scan allowed rest := by
  rw [Arguments.scan, if_neg hne, if_pos hd, h]

theorem scan_of_bare (hd : Arguments.isDashed arg.toList = true) (hne : arg ≠ "--")
    (h : Dashed.ofArgument allowed arg.toList = .bare f) :
    Arguments.scan allowed (arg :: value :: rest) =
      (fun a => { a with values := (f, value) :: a.values }) <$> Arguments.scan allowed rest := by
  rw [Arguments.scan, if_neg hne, if_pos hd, h]

theorem short_dashed (f : OptionName) (cs : List Char) :
    Arguments.isDashed (String.ofList ('-' :: f.short :: cs)).toList = true ∧
      String.ofList ('-' :: f.short :: cs) ≠ "--" := by
  rw [String.toList_ofList]
  refine ⟨rfl, ?_⟩
  intro hx
  injection String.ofList_injective hx with _ hx
  injection hx with hx _
  exact f.short_ne.1 hx

theorem long_dashed (f : OptionName) {arg : String} (h : f.long.toList <+: arg.toList) :
    Arguments.isDashed arg.toList = true ∧ arg ≠ "--" := by
  obtain ⟨c, cs, hlong, -⟩ := f.long_eq
  obtain ⟨after, ha⟩ := h
  rw [hlong] at ha
  rw [← ha]
  refine ⟨rfl, ?_⟩
  rintro rfl
  injection ha with _ ha
  injection ha with _ ha
  cases ha

theorem Gives.scan (h : f ∈ allowed) (hg : Gives f value args) :
    Arguments.scan allowed (args ++ rest) =
      (fun a => { a with values := (f, value) :: a.values }) <$> Arguments.scan allowed rest := by
  cases hg with
  | short =>
    obtain ⟨hd, hne⟩ := f.short_dashed []
    refine scan_of_bare hd hne ?_
    rw [String.toList_ofList, ofArgument_short h]
    rfl
  | joined hv =>
    obtain ⟨hd, hne⟩ := f.short_dashed value.toList
    refine scan_of_valued hd hne ?_
    rw [String.toList_ofList, ofArgument_short h, if_neg (by simpa using hv), String.ofList_toList]
  | long =>
    obtain ⟨hd, hne⟩ := f.long_dashed (List.prefix_refl _)
    exact scan_of_bare hd hne (ofArgument_long h)
  | equals =>
    have harg : (f.long ++ "=" ++ value).toList = f.long.toList ++ '=' :: value.toList := by
      rw [String.toList_append, String.toList_append, List.append_assoc]
      rfl
    obtain ⟨hd, hne⟩ := f.long_dashed ⟨_, harg.symm⟩
    refine scan_of_valued hd hne ?_
    rw [harg, ofArgument_equals h, String.ofList_toList]

theorem AllGiven.scan (h : AllGiven values args) (ha : ∀ x ∈ values, x.1 ∈ allowed) :
    Arguments.scan allowed args = .ok { values := values } := by
  induction h with
  | nil => rfl
  | cons hg _ ih =>
    obtain ⟨hf, hrest⟩ := List.forall_mem_cons.mp ha
    rw [hg.scan hf, ih hrest]
    rfl

end OptionName

open OptionName

/-! ## Commands -/

theorem Verb.leading_of_ofName? {name : String} {v : Verb} (h : ofName? name = some v)
    (rest : List String) : Request.leading (name :: rest) = some (false, name :: rest) := by
  have hplain : ∀ e ∈ table, e.1 ≠ "--help" ∧ e.1 ≠ "--" ∧
      Arguments.isDashed e.1.toList = false := by decide
  obtain ⟨before, after, ht, -⟩ := List.lookup_eq_some_iff.mp h
  have hm : (name, v) ∈ table := by rw [ht]; simp
  obtain ⟨hhelp, hdash, hd⟩ := hplain (name, v) hm
  rw [Request.leading, if_neg hhelp, if_neg hdash, if_neg (Bool.eq_false_iff.mp hd)]

namespace Settings
variable {isDirectory : String → Bool} {file text : String} {a : Int}

theorem set_file (hf : ¬ (Char.ofNat 0 ∈ (tidyPath file).toList ∨ isDirectory (tidyPath file)))
    (s : Settings) : set isDirectory s file .file = .ok { s with file := some (tidyPath file) } :=
  if_neg hf

theorem set_address (isDirectory : String → Bool) (ht : IntegerLiteral.parse? text = some a)
    (s : Settings) : set isDirectory s text .address = .ok { s with address := some a } := by
  simp only [set, integer, ht]
  rfl

/-- Two options are converted one after the other. -/
theorem ofArguments_pair (isDirectory : String → Bool) {f g : OptionName} (h : f ≠ g)
    (x y : String) : ofArguments isDirectory { values := [(f, x), (g, y)] } =
      set isDirectory {} x f >>= fun s => set isDirectory s y g := by
  have hgf : (g == f) = false := beq_false_of_ne h.symm
  have hfg : (f == g) = false := beq_false_of_ne h
  have ho : Arguments.order { values := [(f, x), (g, y)] } = [f, g] := by
    simp [Arguments.order, List.eraseDups_cons, hgf]
  have hx : Arguments.last? { values := [(f, x), (g, y)] } f = some x := by
    simp [Arguments.last?, List.lookup_cons, hfg]
  have hy : Arguments.last? { values := [(f, x), (g, y)] } g = some y := by
    simp [Arguments.last?]
  rw [ofArguments, ho]
  simp only [List.foldlM_cons, List.foldlM_nil, hx, hy, Option.getD_some, bind_pure]

end Settings

namespace Request
variable {isDirectory : String → Bool} {name file text : String} {v : Verb} {args : List String}
  {values : List (OptionName × String)}

/-- A command is run with the values that it is given. -/
theorem ofCommandLine_given (hv : Verb.ofName? name = some v) (h : AllGiven values args)
    (ha : ∀ x ∈ values, x.1 ∈ v.options) : ofCommandLine isDirectory (name :: args) = (do
      let s ← Settings.ofArguments isDirectory { values := values }
      let file ← Settings.required s.file
      return ⟨file, ← Action.ofSettings s v⟩) := by
  rw [ofCommandLine, Verb.leading_of_ofName? hv]
  simp only [hv]
  rw [ofArguments, h.scan ha]
  rfl

/-- What a module is looked up by, and how that is given. -/
inductive Asks : OptionName → String → Action → Prop
  | address {text : String} {a : Int} (h : IntegerLiteral.parse? text = some a) :
      Asks .address text (.moduleAt a)
  | name (part : String) : Asks .name part (.moduleNamed part)

theorem Asks.mem_options {f : OptionName} {x : Action} (h : Asks f text x) :
    f ∈ Verb.module.options ∧ .file ≠ f := by
  cases h <;> decide

/-- In either order, the file and what is asked of it make up the request. -/
theorem ofCommandLine_module {f : OptionName} {x : Action}
    (hf : ¬ (Char.ofNat 0 ∈ (tidyPath file).toList ∨ isDirectory (tidyPath file)))
    (hx : Asks f text x) (hp : values.Perm [(.file, file), (f, text)])
    (h : AllGiven values args) :
    ofCommandLine isDirectory ("module" :: args) = .ok ⟨tidyPath file, x⟩ := by
  obtain ⟨hmem, hne⟩ := hx.mem_options
  have ha : ∀ y ∈ values, y.1 ∈ Verb.module.options := by
    intro y hy
    have hy := hp.mem_iff.mp hy
    simp only [List.mem_cons, List.not_mem_nil, or_false] at hy
    rcases hy with rfl | rfl
    · exact List.mem_cons_self
    · exact hmem
  rw [ofCommandLine_given rfl h ha]
  cases hx with
  | address ht =>
    rcases List.perm_pair.mp hp with rfl | rfl
    · rw [Settings.ofArguments_pair _ hne, Settings.set_file hf]
      exact congrArg (· >>= _) (Settings.set_address isDirectory ht _)
    · rw [Settings.ofArguments_pair _ hne.symm, Settings.set_address _ ht]
      exact congrArg (· >>= _) (Settings.set_file hf _)
  | name part =>
    rcases List.perm_pair.mp hp with rfl | rfl
    · rw [Settings.ofArguments_pair _ hne, Settings.set_file hf]
      rfl
    · rw [Settings.ofArguments_pair _ hne.symm]
      exact congrArg (· >>= _) (Settings.set_file hf _)

end Request

end CrashDump
