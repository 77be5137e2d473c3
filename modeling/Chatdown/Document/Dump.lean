import Chatdown.Document.Node
import Chatdown.Json

/-!
# The document tree as JSON

A node is an object: its kind, the attributes of that kind, and its children
when it has any. An unsupported construct without text has a null literal.
-/

namespace Chatdown

/-- The tag a kind is written with. -/
def Kind.tag : Kind → String
  | .unsupported _ _ => "unsupported"
  | kind => kind.name

/-- The attributes of a kind, in the order they are written. -/
def Kind.attributes : Kind → List (String × Json)
  | .heading level => [("level", .number level)]
  | .list ordered start => [("ordered", .bool ordered), ("start", .number start)]
  | .inlineCode literal => [("literal", .string literal)]
  | .codeBlock info literal => [("info", .string info), ("literal", .string literal)]
  | .link destination title =>
    [("destination", .string destination), ("title", .string title)]
  | .text literal => [("literal", .string literal)]
  | .unsupported name none => [("name", .string name), ("literal", .null)]
  | .unsupported name (some literal) =>
    [("name", .string name), ("literal", .string literal)]
  | _ => []

namespace Node

mutual

/-- The JSON value of a node. -/
def toJson : Node → Json
  | mk kind [] => .object (("kind", .string kind.tag) :: kind.attributes)
  | mk kind (child :: rest) =>
    .object (("kind", .string kind.tag) :: kind.attributes ++
      [("children", .array (toJson child :: toJsonAll rest))])

/-- The JSON values of a sequence of nodes. -/
def toJsonAll : List Node → List Json
  | [] => []
  | node :: rest => toJson node :: toJsonAll rest

end

/-- The indented JSON text of a node. -/
def dump (node : Node) : List Char :=
  node.toJson.pretty

end Node

end Chatdown
