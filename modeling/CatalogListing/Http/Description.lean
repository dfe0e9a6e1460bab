/-
# Http.Description -- what the service says about itself

The bodies that describe the service: its health, its resources, the description of
its interface for programs, and the page that shows the latter to people.
-/
import CatalogListing.Catalog
import CatalogListing.Json.Value

namespace CatalogListing.Http

set_option autoImplicit false

/-- The version of the service. -/
def version : Text := "0.1.0"

/-! ## Health -/

/-- The body of a report on the health of the service. -/
def healthBody (healthy : Bool) : Json :=
  .object [("status", .text (if healthy then "ok" else "degraded")), ("version", .text version)]

/-! ## Resources -/

/-- A list of names. -/
def namesBody (names : List Text) : Json :=
  .array (names.map .text)

def cardinalityName : Cardinality → Text
  | .hasMany => "has_many"
  | .belongsTo => "belongs_to"

def associationBody (association : Association) : Json :=
  .object [("name", .text association.name),
    ("kind", .text (cardinalityName association.cardinality))]

/-- What may be asked of a resource. -/
def resourceBody (resource : Resource) : Json :=
  .object [("name", .text resource.name),
    ("filterable", namesBody resource.filterable),
    ("sortable", namesBody resource.sortable),
    ("searchable", namesBody ((resource.fullText.map (·.columns)).getD [])),
    ("associations", .array (resource.associations.map associationBody))]

/-- Every resource. -/
def catalogBody : Json :=
  .object [("resources", .array (Catalog.resources.map resourceBody))]

/-! ## The interface -/

namespace Interface

/-- The fields of an object. -/
abbrev Fields := List (Text × Json)

/-- The schema of texts. -/
def textSchema : Fields :=
  [("type", .text "string")]

/-- The schema of numbers from zero on, of a format. -/
def countSchema (format : Text) : Fields :=
  [("type", .text "integer"), ("format", .text format), ("minimum", .integer 0)]

/-- A reference to the schema of a name. -/
def reference (name : Text) : Fields :=
  [("$ref", .text ("#/components/schemas/" ++ name))]

/-- The schema of lists. -/
def listSchema (items : Fields) : Fields :=
  [("type", .text "array"), ("items", .object items)]

/-- A schema with a description. -/
def described (description : Text) (schema : Fields) : Fields :=
  schema ++ ([("description", .text description)] : Fields)

/-- The schema of objects that have all the given fields. -/
def objectSchema (fields : List (Text × Fields)) : Fields :=
  [("type", .text "object"), ("required", namesBody (fields.map (·.1))),
    ("properties", .object (fields.map fun field => (field.1, .object field.2)))]

/-- The schemas of the bodies, by their names. -/
def schemas : List (Text × Fields) := [
  ("AssociationDto", objectSchema [("name", textSchema), ("kind", textSchema)]),
  ("CatalogResponse", objectSchema [("resources", listSchema (reference "ResourceDto"))]),
  ("HealthResponse", objectSchema [("status", textSchema), ("version", textSchema)]),
  ("PaginationMeta", described "Pagination metadata in response" (objectSchema [
    ("limit", described "Page size actually applied after clamping" (countSchema "int32")),
    ("offset", countSchema "int64"),
    ("total_items",
      described "Rows matching the filters across all pages" (countSchema "int64"))])),
  ("ResourceDto", objectSchema [
    ("name", textSchema),
    ("filterable", listSchema textSchema),
    ("sortable", listSchema textSchema),
    ("searchable",
      described "Columns accepting full-text \x60m[...]m\x60 filters" (listSchema textSchema)),
    ("associations", listSchema (reference "AssociationDto"))])]

/-- A parameter of a request, in its path or in its query. -/
def parameter (place name description : Text) (required : Bool) (schema : Fields) :
    Json :=
  .object [("name", .text name), ("in", .text place), ("description", .text description),
    ("required", .boolean required), ("schema", .object schema)]

/-- A response without a described body. -/
def response (status description : Text) : Text × Json :=
  (status, .object [("description", .text description)])

/-- A response whose body has the schema of a name. -/
def responseWith (status description schema : Text) : Text × Json :=
  (status, .object [("description", .text description),
    ("content", .object [("application/json",
      .object [("schema", .object (reference schema))])])])

/-- An operation on a path. -/
def operation (name tag summary : Text) (details : Fields)
    (responses : Fields) : Json :=
  let head : Fields :=
    [("tags", namesBody [tag]), ("summary", .text summary), ("operationId", .text name)]
  .object [("get", .object (head ++ details ++ ([("responses", .object responses)] : Fields)))]

/-- The operations by their paths. -/
def paths : Fields := [
  ("/api/v1/health", operation "health" "health"
    "Health check endpoint. Reports \x60degraded\x60 with 503 when the store is\nunreachable." []
    [responseWith "200" "Service is healthy" "HealthResponse",
      responseWith "503" "Database unreachable" "HealthResponse"]),
  ("/api/v1/resources", operation "list_catalog" "resources" "Describe every listable resource" []
    [responseWith "200" "Resource catalog" "CatalogResponse"]),
  ("/api/v1/resources/\x7bresource\x7d",
    operation "list_resource" "resources" "List rows of a resource"
      [("description", .text "Every query key other than \x60limit\x60, \x60offset\x60, \x60order_by\x60 and \x60populate\x60\nis a field filter. Filters on fields outside the resource's allow-list\nare ignored."),
        ("parameters", .array [
          parameter "path" "resource" "Resource name" true textSchema,
          parameter "query" "limit" "Page size, clamped to the configured maximum" false
            (countSchema "int32"),
          parameter "query" "offset" "Rows to skip" false (countSchema "int64"),
          parameter "query" "order_by" "Sort field, \x60-\x60 prefix for descending; repeatable" false
            textSchema,
          parameter "query" "populate" "Associations to preload, e.g. \x60[author,reviews]\x60" false
            textSchema])]
      [response "200" "One page of rows",
        response "400" "Malformed resource name or query string",
        response "404" "Unknown resource"])]

/-- A group of operations. -/
def tag (name description : Text) : Json :=
  .object [("name", .text name), ("description", .text description)]

/-- The description of the interface. -/
def body : Json :=
  .object [("openapi", .text "3.1.0"),
    ("info", .object [("title", .text "Sieve API"),
      ("description", .text "Filtered, paginated listing over an embedded catalog"),
      ("license", .object [("name", .text [])]), ("version", .text version)]),
    ("paths", .object paths),
    ("components", .object [("schemas",
      .object (schemas.map fun schema => (schema.1, .object schema.2)))]),
    ("tags", .array [tag "health" "Health check endpoint",
      tag "resources" "Resource catalog and listing"])]

/-- The page that shows the description. -/
def page : Text := "<!DOCTYPE html>
<html lang=\"en\">
<head>
    <meta charset=\"UTF-8\">
    <title>Sieve API</title>
    <link rel=\"stylesheet\" type=\"text/css\" href=\"https://unpkg.com/swagger-ui-dist@5/swagger-ui.css\">
</head>
<body>
    <div id=\"swagger-ui\"></div>
    <script src=\"https://unpkg.com/swagger-ui-dist@5/swagger-ui-bundle.js\"></script>
    <script>
        window.onload = () => \x7b
            window.ui = SwaggerUIBundle(\x7b url: \"/api/openapi.json\", dom_id: '#swagger-ui' \x7d);
        \x7d;
    </script>
</body>
</html>"

end Interface

end CatalogListing.Http
