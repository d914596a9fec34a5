/-
# Descriptor.Load — descriptors from text and from files

A descriptor is a TOML document that has the right fields and passes
validation. What cannot be loaded is reported by its first kind of fault: the
file cannot be read, the text is no descriptor, or the descriptor is not valid.

* `load_unreadable`: nothing is parsed of a file that cannot be read.
-/
import VirtualHosting.Descriptor.Schema
import VirtualHosting.Descriptor.Validation

namespace VirtualHosting.Descriptor

set_option autoImplicit false

/-- Why a file has no text. -/
inductive FileFault where
  | notFound
  | isDirectory
  | notUtf8
  /-- The system's own words. -/
  | other (words : String)
  deriving DecidableEq, Repr

def FileFault.message : FileFault → String
  | notFound => "No such file or directory (os error 2)"
  | isDirectory => "Is a directory (os error 21)"
  | notUtf8 => "stream did not contain valid UTF-8"
  | other words => words

/-- Why a descriptor cannot be loaded. -/
inductive LoadFault where
  | unreadable (fault : FileFault)
  /-- The text is no TOML. -/
  | notToml
  /-- The document has not the fields of a descriptor. -/
  | notDescriptor (fault : SchemaFault)
  | invalid (problems : List Problem)
  deriving DecidableEq, Repr

/-- The wording of a fault. That of a document that cannot be read is left to
whoever knows the place in the text. -/
def LoadFault.message : LoadFault → String
  | unreadable fault => "IO error: " ++ fault.message
  | notToml | notDescriptor _ => "Parse error"
  | invalid problems =>
    "Validation failed: " ++ String.intercalate ", " (problems.map (·.message))

/-- Reads a descriptor without validating it. -/
def read (document : String) : Except LoadFault Descriptor :=
  match Toml.parse? document with
  | none => .error .notToml
  | some fields =>
    match ofFields fields with
    | .error fault => .error (.notDescriptor fault)
    | .ok d => .ok d

/-- Reads and validates a descriptor. -/
def parse (document : String) : Except LoadFault Descriptor := do
  let d ← read document
  match d.validate with
  | [] => return d
  | problems => .error (.invalid problems)

/-- Loads a descriptor from what reading its file came to. -/
def load (content : Except FileFault ByteArray) : Except LoadFault Descriptor :=
  match content with
  | .error fault => .error (.unreadable fault)
  | .ok bytes =>
    match String.fromUTF8? bytes with
    | none => .error (.unreadable .notUtf8)
    | some document => parse document

theorem load_unreadable (fault : FileFault) : load (.error fault) = .error (.unreadable fault) :=
  rfl

end VirtualHosting.Descriptor
