import QueryDialect.Settings

set_option autoImplicit false

/-!
# Settings files

Settings are looked for in several places, and the first file that can be read as settings is the
one that counts. Nothing is taken from the files that are passed over.
-/
namespace QueryDialect

/-- What stands at a path. -/
inductive FileState where
  | missing
  | directory
  | content (bytes : ByteArray)

namespace FileState

def text : FileState → Except FileFault String
  | missing => .error .missing
  | directory => .error .directory
  | content bytes =>
    match String.fromUTF8? bytes with
    | some s => .ok s
    | none => .error .notText

end FileState

namespace Settings

def ofFile (f : FileState) : Except Error Settings := do
  let s ← f.text.mapError Error.file
  ofText s

/-- The settings of the first file that has some. -/
def loadFirst? : List FileState → Option Settings
  | [] => none
  | f :: rest =>
    match ofFile f with
    | .ok s => some s
    | .error _ => loadFirst? rest

/-- The settings of the file that the environment names, of the one in the current directory, or of
the user's one, and otherwise the built-in ones. -/
def load (named : Option FileState) (current user : FileState) : Settings :=
  (loadFirst? (named.toList ++ [current, user])).getD {}

end Settings

end QueryDialect
