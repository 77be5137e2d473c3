import Chatdown.Document.Dump
import Chatdown.Proofs.Atomicity
import Chatdown.Proofs.JsonReading
import Chatdown.Proofs.Tree
import Chatdown.Proofs.Utf8

/-!
# Reading a dumped document

A reader for the schema of the dump: the tag of the kind, the attributes beside it, the
children, which are missing when there are none, and a null for a missing literal. It
gives back every document from what is printed for it, so that no two documents are
printed alike.
-/

namespace Chatdown

namespace Json

/-- The text that a member holds. -/
def textAt (key : String) (members : List (String × Json)) : Option String :=
  match members.lookup key with
  | some (.string text) => some text
  | _ => none

/-- The number that a member holds. -/
def numberAt (key : String) (members : List (String × Json)) : Option Nat :=
  match members.lookup key with
  | some (.number n) => some n
  | _ => none

/-- The truth value that a member holds. -/
def flagAt (key : String) (members : List (String × Json)) : Option Bool :=
  match members.lookup key with
  | some (.bool flag) => some flag
  | _ => none

end Json

open Json

/-- The literal of an unsupported construct, which may be null. -/
def literalAt (members : List (String × Json)) : Option (Option String) :=
  match members.lookup "literal" with
  | some .null => some none
  | some (.string text) => some (some text)
  | _ => none

/-- The kind that members of an object tell, by its tag and the attributes beside it. -/
def Kind.ofMembers (members : List (String × Json)) : Option Kind := do
  match ← textAt "kind" members with
  | "document" => some .document
  | "heading" => some (.heading (← numberAt "level" members))
  | "paragraph" => some .paragraph
  | "strong" => some .strong
  | "emphasis" => some .emphasis
  | "strikethrough" => some .strikethrough
  | "block_quote" => some .blockQuote
  | "list" => some (.list (← flagAt "ordered" members) (← numberAt "start" members))
  | "list_item" => some .listItem
  | "inline_code" => some (.inlineCode (← textAt "literal" members))
  | "code_block" => some (.codeBlock (← textAt "info" members) (← textAt "literal" members))
  | "link" => some (.link (← textAt "destination" members) (← textAt "title" members))
  | "horizontal_rule" => some .horizontalRule
  | "table" => some .table
  | "table_header" => some .tableHeader
  | "table_body" => some .tableBody
  | "table_row" => some .tableRow
  | "table_cell" => some .tableCell
  | "text" => some (.text (← textAt "literal" members))
  | "unsupported" => some (.unsupported (← textAt "name" members) (← literalAt members))
  | _ => none

namespace Node

mutual

/-- The document node that a JSON value stands for. -/
def ofJson : Json → Option Node
  | .object members => do some (.mk (← Kind.ofMembers members) (← childrenOf members))
  | _ => none

/-- The children that members of an object tell; there are none where they are
missing. -/
def childrenOf : List (String × Json) → Option (List Node)
  | [] => some []
  | (key, value) :: rest => if key = "children" then ofElements value else childrenOf rest

/-- The document nodes that a JSON array stands for. -/
def ofElements : Json → Option (List Node)
  | .array elements => ofJsonAll elements
  | _ => none

/-- The document nodes that JSON values stand for, one by one. -/
def ofJsonAll : List Json → Option (List Node)
  | [] => some []
  | value :: rest => do some ((← ofJson value) :: (← ofJsonAll rest))

end

/-- The bytes that are printed for a document node: its dump and a newline. -/
def printed (node : Node) : List UInt8 :=
  Text.Utf8.encode (node.dump ++ ['\n'])

/-- The document node that printed bytes stand for. -/
def ofPrinted (bytes : List UInt8) : Option Node := do
  let text ← (Text.Utf8.decode bytes).toOption
  ofJson (← Json.read text)

end Node

/-- The tag and the attributes of a kind tell it, whatever stands behind them. -/
theorem Kind.ofMembers_attributes (kind : Kind) (more : List (String × Json)) :
    Kind.ofMembers (("kind", .string kind.tag) :: kind.attributes ++ more) = some kind := by
  cases kind with
  | unsupported name literal => cases literal <;> rfl
  | _ => rfl

namespace Node

/-- No attribute of a kind is taken for its children. -/
theorem childrenOf_attributes (kind : Kind) (more : List (String × Json)) :
    childrenOf (("kind", .string kind.tag) :: kind.attributes ++ more) = childrenOf more := by
  cases kind with
  | unsupported name literal => cases literal <;> rfl
  | _ => rfl

/-- JSON values that stand for nodes one by one stand for all of them. -/
theorem ofJsonAll_toJsonAll {nodes : List Node}
    (h : ∀ node ∈ nodes, ofJson node.toJson = some node) :
    ofJsonAll (toJsonAll nodes) = some nodes := by
  induction nodes with
  | nil => rfl
  | cons node rest ih =>
    obtain ⟨hnode, hrest⟩ := List.forall_mem_cons.mp h
    rw [toJsonAll, ofJsonAll, hnode, ih hrest]
    rfl

/-- The JSON value of a document node stands for it. -/
theorem ofJson_toJson (node : Node) : ofJson node.toJson = some node := by
  induction node with
  | mk kind children ih =>
    cases children with
    | nil =>
      have hkind := Kind.ofMembers_attributes kind []
      have hchildren := childrenOf_attributes kind []
      rw [List.append_nil] at hkind hchildren
      rw [toJson, ofJson, hkind, hchildren]
      rfl
    | cons child rest =>
      have hchildren := ofJsonAll_toJsonAll ih
      rw [toJson, ofJson, Kind.ofMembers_attributes, childrenOf_attributes, childrenOf,
        if_pos rfl, ofElements, ← toJsonAll, hchildren]
      rfl

/-- The document node that bytes stand for is the one they were printed for. -/
theorem ofPrinted_printed (node : Node) : ofPrinted node.printed = some node := by
  have hnewline : ∀ c ∈ ['\n'], Text.isSpace c = true := List.forall_mem_singleton.mpr rfl
  rw [ofPrinted, printed, Text.Utf8.decode_encode, dump]
  change (Json.read (node.toJson.pretty ++ ['\n'])).bind ofJson = some node
  rw [Json.read_pretty _ hnewline, Option.bind_some, ofJson_toJson]

end Node

namespace Command

/-- A tree is shown just when its input can be read as a document, and then what is printed
for the document is put on standard output. -/
theorem showTree_run_eq_ok_iff {stdin : List UInt8} {input : Option String}
    {before after : Result} :
    (showTree stdin input).run before = (.ok (), after) ↔
      ∃ source content node, input = some source ∧
        (Source.ofArgument source).read before.files stdin = .ok content ∧
        Node.parseBytes content = .ok node ∧
        after = { before with stdout := before.stdout ++ node.printed } := by
  simp only [showTree, bind_run_eq_ok_iff, need_run_eq_ok_iff, readInput_run_eq_ok_iff,
    attempt_run_eq_ok_iff]
  constructor
  · rintro ⟨source, _, ⟨hinput, rfl⟩, content, _, ⟨hread, rfl⟩, node, _, ⟨hnode, rfl⟩, hprint⟩
    exact ⟨source, content, node, hinput, hread, hnode, (congrArg Prod.snd hprint).symm⟩
  · rintro ⟨source, content, node, hinput, hread, hnode, rfl⟩
    exact ⟨source, _, ⟨hinput, rfl⟩, content, _, ⟨hread, rfl⟩, node, _, ⟨hnode, rfl⟩, rfl⟩

/-- What is printed for a document node tells it: a reader of JSON gives it back, and so
no two nodes are printed alike. A run that shows a tree prints just this for the tree of
its input, and it does so whenever the input can be read as a document. -/
theorem printed_tells_node :
    (∀ node : Node, Node.ofPrinted node.printed = some node) ∧
      Function.Injective Node.printed ∧
      ∀ (stdin : List UInt8) (input : Option String) (before after : Result),
        (showTree stdin input).run before = (.ok (), after) ↔
          ∃ source content node, input = some source ∧
            (Source.ofArgument source).read before.files stdin = .ok content ∧
            Node.parseBytes content = .ok node ∧
            after = { before with stdout := before.stdout ++ node.printed } := by
  refine ⟨Node.ofPrinted_printed, ?_, fun _ _ _ _ => showTree_run_eq_ok_iff⟩
  intro a b h
  have ha := Node.ofPrinted_printed a
  rw [h, Node.ofPrinted_printed b] at ha
  exact (Option.some.inj ha).symm

end Command

end Chatdown
