import CrashDump.Text.Quoted

/-! # Arguments

Options stand in any order among the arguments of a command, each with a value of its own.
Sorting them out decides which argument belongs to which option, and nothing else.
-/
namespace CrashDump

inductive OptionName where
  | file
  | address
  | size
  | maxLength
  | name
deriving DecidableEq, Repr

namespace OptionName

def long : OptionName → String
  | file => "--file"
  | address => "--address"
  | size => "--size"
  | maxLength => "--max-length"
  | name => "--name"

def short : OptionName → Char
  | file => 'f'
  | address => 'a'
  | size => 's'
  | maxLength => 'm'
  | name => 'n'

end OptionName

/-- Why nothing is run. -/
inductive Usage where
  | help
  | malformed
  | notInteger (text : String)
  | notExactlyOne
deriving DecidableEq, Repr

namespace Usage

/-- The wording, where the program has one of its own. -/
def message? : Usage → Option String
  | help => none
  | malformed => none
  | notInteger text => some s!"{Quoted.text text} is not an integer"
  | notExactlyOne => some "Pass exactly one of --address or --name"

end Usage

/-- An argument that begins with a dash. -/
inductive Dashed where
  | help
  | bare (option : OptionName)
  | valued (option : OptionName) (value : String)
  | unknown
deriving DecidableEq, Repr

namespace Dashed

def long? (allowed : List OptionName) (name : List Char) : Option OptionName :=
  allowed.find? fun f => f.long.toList == name

/-- A value may follow a long name after an equals sign, and a short one at once. -/
def ofArgument (allowed : List OptionName) (arg : List Char) : Dashed :=
  let name := arg.takeWhile (· ≠ '=')
  let value := arg.drop (name.length + 1)
  match long? allowed name with
  | some f => if name.length < arg.length then valued f (String.ofList value) else bare f
  | none =>
    if arg = "--help".toList then help
    else match arg with
      | '-' :: '-' :: _ => unknown
      | '-' :: c :: rest => match allowed.find? fun f => f.short == c with
        | some f => if rest.isEmpty then bare f else valued f (String.ofList rest)
        | none => unknown
      | _ => unknown

end Dashed

/-- The arguments of a command, sorted out. -/
structure Arguments where
  values : List (OptionName × String) := []
  help : Bool := false
  extra : Bool := false
deriving DecidableEq, Repr

namespace Arguments

def isDashed : List Char → Bool
  | '-' :: _ :: _ => true
  | _ => false

def scan (allowed : List OptionName) : List String → Except Usage Arguments
  | [] => .ok {}
  | arg :: rest =>
    if arg = "--" then .ok { extra := !rest.isEmpty }
    else if isDashed arg.toList then
      match Dashed.ofArgument allowed arg.toList with
      | .unknown => .error .malformed
      | .help => (fun a => { a with help := true }) <$> scan allowed rest
      | .valued f v => (fun a => { a with values := (f, v) :: a.values }) <$> scan allowed rest
      | .bare f => match rest with
        | [] => .error .malformed
        | v :: rest => (fun a => { a with values := (f, v) :: a.values }) <$> scan allowed rest
    else (fun a => { a with extra := true }) <$> scan allowed rest

/-- Each option once, where it first appears. -/
def order (a : Arguments) : List OptionName := (a.values.map (·.1)).eraseDups

def last? (a : Arguments) (f : OptionName) : Option String :=
  (a.values.reverse.lookup f)

end Arguments

end CrashDump
