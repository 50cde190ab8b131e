import RepoAtlas.Data.Value
import RepoAtlas.Syntax.Tree

/-!
# Syntax trees as values

A parser that is a program of its own hands its trees over as nested lists. A node is written as its
kind, its flags, the offsets at which it starts and stops, its field name or null, and the list of
its children. The flags are the sum of 1 for a node that is named, 2 for a missing one, and 4 for
one that is marked as erroneous.
-/

namespace RepoAtlas.SyntaxNode

def hasFlag (flag : Nat) (flags : Int) : Bool := flags.toNat / flag % 2 == 1

def fieldOf : Value → Option String
  | .str name => some name
  | _ => none

mutual

def ofValue? : Value → Option SyntaxNode
  | .list [.str kind, .int flags, .int start, .int stop, field, .list children] =>
    (ofValues? children).map fun children =>
      { kind
        isNamed := hasFlag 1 flags
        isMissing := hasFlag 2 flags
        isFlagged := hasFlag 4 flags
        start := start.toNat
        stop := stop.toNat
        field := fieldOf field
        children }
  | _ => none

def ofValues? : List Value → Option (List SyntaxNode)
  | [] => some []
  | value :: rest => do
    let node ← ofValue? value
    let nodes ← ofValues? rest
    pure (node :: nodes)

end

end RepoAtlas.SyntaxNode
