import BuildLog.Yaml.Node

/-!
# Decoders — reading a document with its aliases

A decoder reads nodes of one document.  Where it comes to an alias it goes on at the node that the
alias stands for.  As an alias may stand for a node with many more aliases in it, or for one that it
lies in itself, a document allows only so many of these steps, and only so many collections within
each other.
-/

namespace BuildLog.Yaml

/-- How deep collections may lie within each other, counted along aliases. -/
def maxDepth : Nat := 128

/-- The number of aliases that may be followed in a document. -/
def Document.aliasLimit (d : Document) : Nat := 100 * d.root.marks

/-- A reading of a document that may fail; the state is the number of aliases that may still be
followed. -/
abbrev Decoder := ReaderT Document (StateT Nat Option)

namespace Decoder

def ofOption {α : Type} : Option α → Decoder α
  | some a => return a
  | none => failure

/-- What a decoder reads in a document. -/
def run? {α : Type} (x : Decoder α) (d : Document) : Option α :=
  ((ReaderT.run x d).run d.aliasLimit).map (·.1)

end Decoder

namespace Node

/-- The node itself, or the one that it is an alias for, which is no alias. -/
def follow (n : Node) : Decoder Node := do
  match n with
  | .alias number =>
    match ← get, (← read).node? number with
    | left + 1, some target =>
      set left
      return target
    | _, _ => failure
  | n => return n

end Node

end BuildLog.Yaml
