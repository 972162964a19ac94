import GuardedCrud.Access.Encoding
import GuardedCrud.Settings.Basic
import GuardedCrud.Toml.Printer
import GuardedCrud.Toml.Reader

/-!
# Settings as JSON values and as TOML

Every member may be left out and then has its default.  Settings files are read through the same values, where a
list may be longer than the structure that it stands for.

A settings file holds every text of the settings, then a table for the guards and, if there are any, one for the
default levels.
-/

namespace GuardedCrud

open GuardedCrud.Access GuardedCrud.Json

namespace Access.Conventions

/-- The members of the conventions in order. -/
def keys : List String := ["user", "admin", "custom_prefix", "custom_suffix"]

/-- Conventions from a value. -/
def ofJson? (surplus : Bool) (v : Value) : Option Conventions := do
  let fields ← v.fields? keys surplus
  let standard : Conventions := {}
  return {
    user := ← defaulted fields "user" standard.user Value.text?
    admin := ← defaulted fields "admin" standard.admin Value.text?
    roleStart := ← defaulted fields "custom_prefix" standard.roleStart Value.text?
    roleEnd := ← defaulted fields "custom_suffix" standard.roleEnd Value.text? }

/-- The members of the conventions with their texts. -/
def members (c : Conventions) : List (String × String) :=
  [("user", c.user), ("admin", c.admin), ("custom_prefix", c.roleStart), ("custom_suffix", c.roleEnd)]

end Access.Conventions

namespace Settings

/-- The members of the settings in order. -/
def keys : List String :=
  ["module_name", "module_file", "guards_import", "types_import", "prisma_import", "guards", "default_policy"]

/-- Settings from a value; `surplus` says whether a list may be longer than the structure that it stands for. -/
def ofJson? (surplus : Bool) (v : Value) : Option Settings := do
  let fields ← v.fields? keys surplus
  let standard : Settings := {}
  return {
    moduleName := ← defaulted fields "module_name" standard.moduleName Value.text?
    moduleFile := ← defaulted fields "module_file" standard.moduleFile Value.text?
    guardsImport := ← defaulted fields "guards_import" standard.guardsImport Value.text?
    typesImport := ← defaulted fields "types_import" standard.typesImport Value.text?
    prismaImport := ← defaulted fields "prisma_import" standard.prismaImport Value.text?
    guards := ← defaulted fields "guards" standard.guards (Conventions.ofJson? surplus)
    defaultPolicy := ← optional fields "default_policy" (Overrides.ofJson? surplus) }

/-- The members of the settings that are texts. -/
def textMembers (s : Settings) : List (String × String) :=
  [("module_name", s.moduleName), ("module_file", s.moduleFile), ("guards_import", s.guardsImport),
    ("types_import", s.typesImport), ("prisma_import", s.prismaImport)]

/-- Settings as an object. -/
def toJson (s : Settings) : Value :=
  let texts (members : List (String × String)) := members.map fun (key, text) => (key, Value.string text)
  .object (
    texts s.textMembers ++ [("guards", .object (texts s.guards.members))] ++
    optionalMember "default_policy" Overrides.toJson s.defaultPolicy)

end Settings

/-! ### Settings files -/

/-- The levels that are set, with their keys. -/
def Access.Overrides.members (o : Overrides) : List (String × String) :=
  Operation.stored.filterMap fun op => (o.get op).map fun l => (op.key, l.text)

namespace Settings

/-- Settings as a document. -/
def toDocument (s : Settings) : Toml.Document where
  pairs := s.textMembers
  tables :=
    ("guards", s.guards.members) ::
    match s.defaultPolicy with
    | some o => [("default_policy", o.members)]
    | none => []

/-- The text of a settings file. -/
def toToml (s : Settings) : String := s.toDocument.render

/-- Settings from the table of a settings file. -/
def ofNode? (n : Toml.Node) : Option Settings := ofJson? true n.toJson

/-- Settings from the text of a settings file. -/
def ofToml? (text : String) : Option Settings := (Toml.ofText? text).bind ofNode?

end Settings

end GuardedCrud
