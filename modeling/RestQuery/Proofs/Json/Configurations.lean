import RestQuery.Proofs.Json.Queries
import RestQuery.Proofs.Text.Splitting
import RestQuery.Service.Config

/-!
# Client configurations read back from JSON

A configuration is written with all its fields, `null` for what is not set, and read back as it is.
A single host is a string and stays one, however many hosts a list holds. The key of the hosts has a
second name, and the text with that name in its place is read in the same way.
-/

namespace RestQuery

open Json (Tree textParts)

namespace Json

/-- The object with another name for one of its fields. -/
def renameField (name other : String) : Json → Json
  | .object fields =>
      .object (fields.map fun (key, value) => (if key = name then other else key, value))
  | value => value

theorem fieldChars_append (left right : List (String × Json)) :
    fieldChars (left ++ right) = fieldChars left ++ fieldChars right := by
  induction left with
  | nil => rfl
  | cons field rest ih => rw [List.cons_append, fieldChars, fieldChars, ih, List.cons_append]

/-- What stands around a key does not depend on the key. -/
theorem exists_render_object (left right : List (String × Json)) (value : Json) :
    ∃ before after : String, ∀ key : String,
      (Json.object (left ++ (key, value) :: right)).render =
        before ++ String.ofList (quoteChars key.toList) ++ ":" ++ after := by
  rcases Text.exists_joinChars_append_cons ',' (fieldChars left) (fieldChars right) with
    ⟨front, back, around⟩
  refine ⟨String.ofList ('{' :: front), String.ofList (chars value ++ (back ++ ['}'])), ?_⟩
  intro key
  apply String.toList_inj.mp
  simp [render, chars, fieldChars_append, fieldChars, around]

end Json

open Json.Tree

theorem Values.ofTree?_toTree (values : Values) :
    Values.ofTree? values.toJson.toTree = some values := by
  cases values with
  | one value =>
      change (Json.partsText? (textParts value)).map Values.one = some (.one value)
      rw [Json.partsText?_textParts, Option.map_some]
  | many values =>
      change ((Json.ofTexts values).toTree.listOf? text?).map Values.many = some (.many values)
      rw [listOf?_texts, Option.map_some]

namespace ServiceConfig

theorem portOfTree?_toTree (port : UInt16) :
    portOfTree? (Json.int port.toNat).toTree = some port := by
  have small : port.toNat < 65536 := port.toNat_lt
  have inRange : (0 : Int) ≤ port.toNat ∧ (port.toNat : Int) < 65536 := by omega
  have numeral : Json.ofNumeral? (.ofInt port.toNat) = some (.int port.toNat) :=
    Json.ofNumeral?_ofInt (Int64.toInt_minValue ▸ by omega) (Int64.toInt_maxValue ▸ by omega)
  change portOfTree? (.number (.ofInt port.toNat)) = some port
  simp only [portOfTree?, numeral, inRange, and_self, ↓reduceIte, Int.toNat_natCast,
    UInt16.ofNat_toNat]

/-- The fields of a configuration as they are written, with a name for the hosts. -/
theorem fields?_toTree {name : String} (isName : name = "hosts" ∨ name = "host")
    (config : ServiceConfig) :
    (config.toJson.renameField "hosts" name).toTree.fields? fieldNames =
      some [some (Json.ofOption Json.text config.dsn).toTree,
        some (Json.text config.protocol).toTree,
        some (Json.ofOption Values.toJson config.hosts).toTree,
        some (Json.ofOption (fun port => Json.int port.toNat) config.port).toTree,
        some (Json.text config.database).toTree,
        some (Json.ofOption Json.text config.basePath).toTree] := by
  rcases isName with rfl | rfl <;> rfl

/-- A configuration is read back from its tree, under either name of its hosts. -/
theorem ofTree?_toTree {name : String} (isName : name = "hosts" ∨ name = "host")
    (config : ServiceConfig) :
    ofTree? (config.toJson.renameField "hosts" name).toTree = some config := by
  have hosts : optionOf? Values.ofTree? (Json.ofOption Values.toJson config.hosts).toTree =
      some config.hosts := by
    apply optionOf?_toTree
    · intro values isNull
      cases values <;> cases isNull
    · exact Values.ofTree?_toTree
  have port : optionOf? portOfTree?
      (Json.ofOption (fun port => Json.int port.toNat) config.port).toTree = some config.port := by
    apply optionOf?_toTree
    · intro port isNull
      cases isNull
    · exact portOfTree?_toTree
  rw [ofTree?, fields?_toTree isName]
  simp [Fields.defaulted?, optionOf?_text, hosts, port]

theorem ofJsonText_of_tree {text : String} {tree : Tree} {config : ServiceConfig}
    (isTree : Tree.ofText? text = some tree) (isConfig : ofTree? tree = some config) :
    ofJsonText text = .ok config := by
  rw [ofJsonText, isTree, Option.bind_some, isConfig]

theorem resolved_of_ofJsonText {text : String} {config : ServiceConfig}
    (isRead : ofJsonText text = .ok config) :
    (ofJsonText text).map effectiveBasePath = .ok config.effectiveBasePath ∧
      (ofJsonText text).bind baseUrl = config.baseUrl := by
  rw [isRead]
  exact ⟨rfl, rfl⟩

theorem renameField_hosts (config : ServiceConfig) :
    config.toJson.renameField "hosts" "hosts" = config.toJson := rfl

/--
A configuration is read back from its JSON, be it compact or indented, and from the same text with
the other name of the hosts. So it has the same base path, and the same base address or none.
-/
theorem ofJsonText_written (config : ServiceConfig) :
    let renamed := config.toJson.renameField "hosts" "host"
    (∃ before after : String, config.toJson.render = before ++ "\"hosts\"" ++ ":" ++ after ∧
        renamed.render = before ++ "\"host\"" ++ ":" ++ after) ∧
      (ofJsonText config.toJson.render = .ok config ∧
        ofJsonText config.toJson.renderPretty = .ok config) ∧
      (ofJsonText renamed.render = .ok config ∧ ofJsonText renamed.renderPretty = .ok config) ∧
      ((ofJsonText config.toJson.render).map effectiveBasePath = .ok config.effectiveBasePath ∧
        (ofJsonText config.toJson.render).bind baseUrl = config.baseUrl) ∧
      ((ofJsonText renamed.render).map effectiveBasePath = .ok config.effectiveBasePath ∧
        (ofJsonText renamed.render).bind baseUrl = config.baseUrl) := by
  intro renamed
  have isConfig : ofTree? config.toJson.toTree = some config := by
    rw [← renameField_hosts]
    exact ofTree?_toTree (.inl rfl) config
  have isRenamed : ofTree? renamed.toTree = some config := ofTree?_toTree (.inr rfl) config
  have readBack : ofJsonText config.toJson.render = .ok config :=
    ofJsonText_of_tree (Tree.ofText?_render config.toJson) isConfig
  have readRenamed : ofJsonText renamed.render = .ok config :=
    ofJsonText_of_tree (Tree.ofText?_render renamed) isRenamed
  refine ⟨?_, ⟨readBack, ?_⟩, ⟨readRenamed, ?_⟩, resolved_of_ofJsonText readBack,
    resolved_of_ofJsonText readRenamed⟩
  · rcases Json.exists_render_object
      [("dsn", .ofOption Json.text config.dsn), ("protocol", .text config.protocol)]
      [("port", .ofOption (fun port => .int port.toNat) config.port),
        ("database", .text config.database), ("prefix", .ofOption Json.text config.basePath)]
      (.ofOption Values.toJson config.hosts) with ⟨before, after, around⟩
    exact ⟨before, after, around "hosts", around "host"⟩
  · exact ofJsonText_of_tree (Tree.ofText?_renderPretty config.toJson) isConfig
  · exact ofJsonText_of_tree (Tree.ofText?_renderPretty renamed) isRenamed

end ServiceConfig

end RestQuery
