import Metacard.Schema.Basic
/-!
# Schema texts

The text of a schema declares, line by line, the scalars and shapes that every schema has, then the
nominal types that its fields use, and last its two sides. A scalar takes a line of its own, any
other declaration a block after an empty line.

This is `to_sdl` of a `SchemaDescriptor`.
-/

set_option autoImplicit false

namespace Metacard.Sdl

/-- A line of a block, perhaps with a remark on the line before. -/
structure Entry where
  remark : Option String
  text : String
  deriving DecidableEq, Repr

inductive Declaration where
  | scalar (remark : Option String) (name : String)
  | block (keyword name : String) (entries : List Entry)
  deriving DecidableEq, Repr

def Declaration.name : Declaration → String
  | .scalar _ name => name
  | .block _ name _ => name

def remarkLine (margin : String) (remark : Option String) : List String :=
  match remark with
  | some remark => [margin ++ "# " ++ remark]
  | none => []

def Entry.lines (entry : Entry) : List String :=
  remarkLine "  " entry.remark ++ ["  " ++ entry.text]

def Declaration.lines : Declaration → List String
  | .scalar remark name => remarkLine "" remark ++ ["scalar " ++ name]
  | .block keyword name entries =>
      ["", keyword ++ " " ++ name ++ " \x7b"] ++ entries.flatMap Entry.lines ++ ["\x7d"]

def plainEntries (texts : List String) : List Entry :=
  texts.map fun text => ⟨none, text⟩

def prelude : List Declaration :=
  [.scalar none "Json",
    .scalar (some "Binary content embedded as a base64 String") "Binary",
    .scalar (some "WKT embedded as a String") "Geometry",
    .scalar (some "XML embedded as a String") "XML",
    .scalar (some "ISO 8601 Date Time embedded as a String") "Date",
    .block "enum" "Direction" (plainEntries ["asc", "ascending", "desc", "descending"]),
    .block "input" "QuerySortInput" (plainEntries ["attribute: String", "direction: Direction"]),
    .block "input" "QuerySettingsInput"
      [⟨none, "src: String"⟩, ⟨none, "federation: String"⟩, ⟨none, "phonetics: Boolean"⟩,
        ⟨none, "sorts: [QuerySortInput]"⟩, ⟨none, "spellcheck: Boolean"⟩,
        ⟨some "Page size", "count: Int"⟩,
        ⟨some "Start of paging. First element is 1, not 0.", "start: Int"⟩,
        ⟨none, "type: String"⟩, ⟨none, "facets: [String]"⟩],
    .block "type" "QueryResponseStatus"
      (plainEntries ["count: Int", "elapsed: Int", "hits: Int", "id: ID", "successful: Boolean"]),
    .block "type" "MetacardAction"
      (plainEntries ["description: String", "displayName: String", "id: ID", "title: String",
        "url: String"]),
    .block "type" "QueryResponseResult" (plainEntries ["actions: [MetacardAction]",
      "metacard: Json"]),
    .block "type" "QueryResponse" (plainEntries ["results: [QueryResponseResult]",
      "attributes: [MetacardAttributes]", "status: QueryResponseStatus"]),
    .block "type" "Query" (plainEntries
      ["metacards(filterTree: Json!, settings: QuerySettingsInput): QueryResponse"])]

def nominalNames (fields : List Field) : List String :=
  (Table.ofList (fields.filterMap fun field =>
    field.type.base.nominal?.map fun name => (name, ()))).keys

def fieldEntry (field : Field) : Entry where
  remark := some ("metacard attribute: **`" ++ field.rawId ++ "`**")
  text := field.render

def shapeBlock (shape : Shape) : Declaration :=
  .block (match shape.side with
    | .read => "type"
    | .write => "input") shape.name (shape.fields.map fieldEntry)

def nominals (schema : Schema) : List Declaration :=
  (nominalNames ((schema.shape .read).fields ++ (schema.shape .write).fields)).map (.scalar none)

def lines (schema : Schema) : List String :=
  prelude.flatMap Declaration.lines ++ [""] ++ (nominals schema).flatMap Declaration.lines ++
    (shapeBlock (schema.shape .read)).lines ++ (shapeBlock (schema.shape .write)).lines

def render (schema : Schema) : String :=
  String.join ((lines schema).map (· ++ "\n"))

end Metacard.Sdl
