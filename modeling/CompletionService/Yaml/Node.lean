import CompletionService.Yaml.Fault
import CompletionService.Yaml.Tag

/-!
# YAML documents

A `Document` is a tree of nodes. An alias is a node of its own, which stands for the node that bears
its anchor; that node may be above the alias. A text that is YAML only in its beginning still has a
document, up to a broken node, so that what can be said about the beginning is said first.
-/

namespace CompletionService.Yaml

/-- A node, with the mark where it starts. -/
inductive Node
  | scalar (mark : Mark) (tag? : Option Tag) (text : String) (plain : Bool)
  | sequence (mark : Mark) (tag? : Option Tag) (items : List Node)
  | mapping (mark : Mark) (tag? : Option Tag) (entries : List (Node × Node))
  /-- stands for the node with the number `anchor` -/
  | alias (mark : Mark) (anchor : Nat)
  /-- the text stops being YAML here -/
  | broken
  deriving Inhabited

/-- The first document of a text. -/
structure Document where
  /-- the node that holds all others; an empty text has none -/
  root? : Option Node
  /-- the nodes that aliases stand for, by number -/
  anchored : List (Nat × Node) := []
  /-- the number of nodes and of ends of collections -/
  size : Nat := 0
  /-- why the text is no YAML, if it is not -/
  fault? : Option Fault := none
  /-- something comes after the document -/
  more : Bool := false

end CompletionService.Yaml
