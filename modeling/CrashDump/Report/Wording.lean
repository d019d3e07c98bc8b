import CrashDump.Format.Codes
import CrashDump.Text.Hex

/-! # Wording of coded values

How codes, flag sets and versions are put into words. Codes without a name have a word of
their own.
-/
namespace CrashDump.Wording

def named (t : Codes) (code : Int) : String := (t.name? code).getD "UNKNOWN"

def architecture (code : Int) : String := named Codes.architectures code

def productType (code : Int) : String := named Codes.productTypes code

def platform (code : Int) : String := named Codes.platforms code

def regionState (code : Int) : String := named Codes.regionStates code

def regionType (code : Int) : String :=
  if code = 0 then "N/A" else named Codes.regionTypes code

def streamTag (code : Int) : String :=
  (Codes.streamTags.name? code).getD s!"Unknown({Hex.signed code})"

/-- The names of all bits set, provided that every one of them has a name. -/
def protection (flags : Int) : String :=
  if flags = 0 then "N/A"
  else
    let hits := Codes.protections.setIn flags.toNat
    if (hits.foldl (fun n hit => n + hit.2) 0 : Int) = flags then "|".intercalate (hits.map (·.1))
    else "PAGE_UNKNOWN"

/-- Releases by major and minor version: for workstations and for servers. -/
def releases : List ((Int × Int) × String × String) := [
  ((10, 0), "Windows 10", "Windows Server 2016"),
  ((6, 3), "Windows 8.1", "Windows Server 2012 R2"),
  ((6, 2), "Windows 8", "Windows Server 2012"),
  ((6, 1), "Windows 7", "Windows Server 2008 R2"),
  ((6, 0), "Windows Vista", "Windows Server 2008"),
  ((5, 1), "Windows XP", "Windows XP"),
  ((5, 0), "Windows 2000", "Windows 2000")]

def workstation : Int := 1

def operatingSystem (major minor productType : Int) : String :=
  match releases.lookup (major, minor) with
  | none => "Unknown"
  | some (client, server) => if productType = workstation then client else server

/-- The four words of a file version; nothing where the version record is blank. -/
def fileVersion (signature ms ls : Int) : String :=
  if signature = 0 then ""
  else s!"{ms / 65536}.{ms % 65536}.{ls / 65536}.{ls % 65536}"

end CrashDump.Wording
