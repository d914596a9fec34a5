/-
# Descriptor.Schema — reading a descriptor from a document

Fields are read by name from a table, or by position from an array. Unknown
fields are passed over; a field that is there must have the right type, and one
that is not must have a default.
-/
import VirtualHosting.Descriptor
import VirtualHosting.Toml.Document

namespace VirtualHosting.Descriptor

set_option autoImplicit false

open Toml (Value)

/-- Why a document is no descriptor. -/
inductive SchemaFault where
  /-- A required field is missing. -/
  | missing (field : String)
  /-- A field holds something else than it should. -/
  | mistyped (field : String)
  deriving DecidableEq, Repr

abbrev Fields := List (String × Value)

/-- Reads the value of a field. -/
abbrev FieldReader (α : Type) := String → Value → Except SchemaFault α

/-- The fields of a structure whose fields have these names, in this order. A
date is a structure too, with none of them. -/
def fieldsOf (names : List String) : FieldReader Fields := fun field v =>
  match v with
  | .table entries => .ok entries
  | .array items => .ok (names.zip items)
  | .datetime _ => .ok []
  | _ => .error (.mistyped field)

def text : FieldReader String := fun field v =>
  match v with
  | .string s => .ok s
  | _ => .error (.mistyped field)

def flag : FieldReader Bool := fun field v =>
  match v with
  | .boolean b => .ok b
  | _ => .error (.mistyped field)

def listOf {α : Type} (item : FieldReader α) : FieldReader (List α) := fun field v =>
  match v with
  | .array items => items.mapM (item field)
  | _ => .error (.mistyped field)

/-- A value without content, as it may stand behind the word for a format. -/
def isHollow : Value → Bool
  | .table entries => entries.isEmpty
  | .array items => items.isEmpty
  | _ => false

/-- A word, or a table that has the word for its only key and nothing in it. -/
def logFormat : FieldReader LogFormat := fun field v =>
  let word? := match v with
    | .string s => some s
    | .table [(s, inner)] => if isHollow inner then some s else none
    | _ => none
  match word?.bind LogFormat.ofName? with
  | some format => .ok format
  | none => .error (.mistyped field)

/-- Reads a field that must be there. -/
def required {α : Type} (fields : Fields) (field : String) (read : FieldReader α) :
    Except SchemaFault α :=
  match fields.lookup field with
  | some v => read field v
  | none => .error (.missing field)

/-- Reads a field that has a default. -/
def optional {α : Type} (fields : Fields) (field : String) (read : FieldReader α) (default : α) :
    Except SchemaFault α :=
  match fields.lookup field with
  | some v => read field v
  | none => .ok default

def handler : FieldReader HandlerSpec := fun field v => do
  let fields ← fieldsOf ["name", "patterns", "template", "resource_only"] field v
  return { name := ← required fields "name" text
           patterns := ← required fields "patterns" (listOf text)
           template := ← optional fields "template" flag false
           resourceOnly := ← optional fields "resource_only" flag false }

def application : FieldReader ApplicationSpec := fun field v => do
  let fields ← fieldsOf ["path", "version", "document_root", "welcome_files", "root_redirect",
    "directory_redirect", "paused", "handlers"] field v
  return { path := ← optional fields "path" text ""
           version := ← optional fields "version" text ""
           documentRoot := ← optional fields "document_root" (fun f v => some <$> text f v) none
           welcomeFiles := ← optional fields "welcome_files" (listOf text) []
           rootRedirect := ← optional fields "root_redirect" flag true
           directoryRedirect := ← optional fields "directory_redirect" flag false
           paused := ← optional fields "paused" flag false
           handlers := ← optional fields "handlers" (listOf handler) [] }

def host : FieldReader HostSpec := fun field v => do
  let fields ← fieldsOf ["name", "aliases", "applications"] field v
  return { name := ← required fields "name" text
           aliases := ← optional fields "aliases" (listOf text) []
           applications := ← optional fields "applications" (listOf application) [] }

def logSettings : FieldReader LogSettings := fun field v => do
  let fields ← fieldsOf ["log_level", "log_format"] field v
  return { level := ← optional fields "log_level" text "info"
           format := ← optional fields "log_format" logFormat .pretty }

/-- Reads a descriptor from the fields of a document. -/
def ofFields (fields : Fields) : Except SchemaFault Descriptor := do
  return { defaultHost := ← optional fields "default_host" (fun f v => some <$> text f v) none
           logging := ← optional fields "observability" logSettings {}
           hosts := ← optional fields "hosts" (listOf host) [] }

end VirtualHosting.Descriptor
