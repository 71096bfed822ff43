import RestQuery.Service.ConfigFile
import RestQuery.Yaml.Node
import RestQuery.Yaml.Scalar

/-!
# Configurations in plain YAML

A reader of configurations for YAML without anchors, aliases, tags, directives and literal or folded
blocks. A text field takes any scalar as it is written, while a host has to be a scalar that means
text and a port one that means a natural number.
-/

namespace RestQuery

open Yaml (Node)

namespace Yaml.Node

/-- The text of a scalar, whatever it means. -/
def text? : Node → Option String
  | .scalar _ text => some text
  | _ => none

/-- The text of a scalar that means text. -/
def strictText? : Node → Option String
  | .scalar .quoted text => some text
  | .scalar .plain text => if Yaml.meaning text = .text then some text else none
  | _ => none

/-- A scalar that means nothing. -/
def isNull : Node → Bool
  | .scalar .plain text => Yaml.meaning text = .null
  | _ => false

/-- A value, or none where nothing is written. -/
def optionOf? {Value : Type} (read? : Node → Option Value) (node : Node) : Option (Option Value) :=
  if node.isNull then some none else (read? node).map some

/-- The entries of a mapping with known keys, in the order of the names. -/
def fields? (names : List (List String)) : Node → Option (Fields.Slots Node)
  | .mapping entries =>
      entries.foldlM
        (fun slots (key, value) => key.text?.bind fun key => Fields.fill? names key value slots)
        (Fields.free names)
  | _ => none

end Yaml.Node

namespace ServiceConfig

/-- A host, or a list of hosts. -/
def hostsOfNode? : Node → Option Values
  | .sequence items => (items.mapM Node.strictText?).map .many
  | node => node.strictText?.map .one

/-- A port is a natural number of sixteen bits without quotes. -/
def portOfNode? : Node → Option UInt16
  | .scalar .plain text =>
      match Yaml.readNatural? text.toList with
      | some port => if port < 65536 then some (UInt16.ofNat port) else none
      | none => none
  | _ => none

/-- Reads a configuration from a mapping; every field may be left out. -/
def ofFields? (node : Node) : Option ServiceConfig :=
  match node.fields? fieldNames with
  | some [dsn, protocol, hosts, port, database, basePath] => do
      let dsn ← Fields.defaulted? none (Node.optionOf? Node.text?) dsn
      let protocol ← Fields.defaulted? default.protocol Node.text? protocol
      let hosts ← Fields.defaulted? none (Node.optionOf? hostsOfNode?) hosts
      let port ← Fields.defaulted? none (Node.optionOf? portOfNode?) port
      let database ← Fields.defaulted? default.database Node.text? database
      let basePath ← Fields.defaulted? none (Node.optionOf? Node.text?) basePath
      return ⟨dsn, protocol, hosts, port, database, basePath⟩
  | _ => none

/-- Reads a configuration from a document; an empty one leaves every field out. -/
def ofNode? : Node → Option ServiceConfig
  | .scalar .plain "" => some default
  | node => ofFields? node

/-- Reads a configuration from YAML text. -/
def ofYamlText (text : String) : Except ConfigError ServiceConfig :=
  match (Node.ofText? text).bind ofNode? with
  | some config => .ok config
  | none => .error .invalidYaml

/-- Loads a configuration from a file with the reader of plain YAML. -/
def load (contents : String → Option String) (path : String) : Except ConfigError ServiceConfig :=
  loadWith ofYamlText contents path

end ServiceConfig

end RestQuery
