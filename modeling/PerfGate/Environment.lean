import PerfGate.Text

/-!
# Environments

The variables that a program is started with: a list of entries `name=value`.  The first
entry of a name decides its value.  `Environment.override` gives some names other values and
leaves every other entry where it is.
-/

namespace PerfGate

/-- A lookup of environment variables. -/
abbrev Environment := Text → Option Text

namespace Environment

/-- The value of a variable that is set to a text other than the empty one. -/
def value? (env : Environment) (name : Text) : Option Text :=
  ((env name).map Text.untilNul).filter (!·.isEmpty)

/-! ### Entries -/

/-- An entry. -/
def entry (name value : Text) : Text := name ++ '=' :: value

/-- The name of an entry; an entry without an equals sign is all name. -/
def entryName (e : Text) : Text := e.takeWhile (· != '=')

/-- The lookup in a list of entries. -/
def ofEntries (entries : List Text) : Environment := fun name =>
  entries.findSome? (Text.after? (name ++ ['=']))

/-- The entries with other values for some names, which stand at the end. -/
def override (entries : List Text) (overrides : List (Text × Text)) : List Text :=
  entries.filter (fun e => !overrides.any (·.1 == entryName e)) ++
    overrides.map fun (name, value) => entry name value

end Environment

end PerfGate
