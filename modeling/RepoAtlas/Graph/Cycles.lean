import RepoAtlas.Data.Total
import RepoAtlas.Graph.Basic

/-!
# Import cycles

Cycles are found by a depth-first search. At any moment a node is unvisited, on the *path* from the
current root to the current node, or finished. An edge to a node on the path closes a walk: the part
of the path from that node on, and that node again. Walks that visit the same names in the same
cyclic order, in either direction, are reported once; but the edges of every closed walk are
collected, because taking all of them away is what leaves no cycle.

The search is a step function on an explicit state. Each step uses up one edge or finishes one node,
and `Search.work` counts how many of both there are left.
-/

namespace RepoAtlas

/-! ## Walks that are the same cycle -/

namespace Walk

def rotations {α : Type} (items : List α) : List (List α) :=
  (List.range items.length).map fun k => items.drop k ++ items.take k

/-- The ways of writing the same cycle: the rotations of it and of its reversal. -/
def variants {α : Type} (items : List α) : List (List α) :=
  rotations items ++ rotations items.reverse

def least (first : List String) (more : List (List String)) : List String :=
  more.foldl (fun best other => if other < best then other else best) first

/-- The least way of writing a cycle, which is the same for all ways of writing it. -/
def canonical (names : List String) : List String :=
  match variants names with
  | [] => []
  | first :: more => least first more

def steps (walk : List Nat) : List (Nat × Nat) := walk.zip walk.tail

end Walk

/-! ## The search -/

/-- A node on the path with the edges that are still to be looked at. -/
structure SearchFrame where
  node : Nat
  targets : List Nat
deriving DecidableEq, Repr

/-- The state of the search. -/
structure Search where
  /-- The current path, the current node first. -/
  path : List SearchFrame
  finished : List Nat
  /-- The closed walks that are reported, in the order they were found. -/
  walks : List (List Nat)
  pairs : List (Nat × Nat)
deriving DecidableEq, Repr

namespace Search

/-- What the search needs to know of a graph. -/
structure Arena where
  size : Nat
  successors : Nat → List Nat
  name : Nat → String

/-- The nodes of the path from the root to the current node. -/
def trail (s : Search) : List Nat := (s.path.map (·.node)).reverse

def isVisited (s : Search) (node : Nat) : Bool :=
  s.path.any (·.node == node) || s.finished.contains node

/-- The walk that an edge from the current node back to `target` closes. -/
def closedWalk (s : Search) (target : Nat) : List Nat :=
  s.trail.dropWhile (· != target) ++ [target]

def key (arena : Arena) (walk : List Nat) : List String :=
  Walk.canonical (walk.dropLast.map arena.name)

/-- Reports a closed walk unless it is known, and collects its edges. -/
def close (arena : Arena) (walk : List Nat) (s : Search) : Search :=
  { s with
    walks := if s.walks.any fun known => key arena known == key arena walk then s.walks
      else s.walks ++ [walk]
    pairs := s.pairs ++ Walk.steps walk }

def enter (arena : Arena) (node : Nat) (s : Search) : Search :=
  { s with path := ⟨node, arena.successors node⟩ :: s.path }

/-- Looks at the next edge of the current node, or finishes the node if there is none. Edges to
nodes outside the arena lead nowhere. -/
def step (arena : Arena) (s : Search) : Search :=
  match s.path with
  | [] => s
  | ⟨node, []⟩ :: outer => { s with path := outer, finished := node :: s.finished }
  | ⟨node, target :: more⟩ :: outer =>
    let rest := { s with path := ⟨node, more⟩ :: outer }
    if rest.path.any (·.node == target) then close arena (rest.closedWalk target) rest
    else if s.finished.contains target || arena.size ≤ target then rest
    else enter arena target rest

/-! ### Why it ends -/

def frameWork (path : List SearchFrame) : Nat := total (path.map (·.targets.length + 1))

def unvisitedWork (arena : Arena) (s : Search) : Nat :=
  total <| ((List.range arena.size).filter (!s.isVisited ·)).map fun node =>
    (arena.successors node).length + 1

def work (arena : Arena) (s : Search) : Nat := frameWork s.path + unvisitedWork arena s

/-- Marking one more element of a list without repetitions takes its weight away. -/
theorem total_filter_visit (weight : Nat → Nat) (before after : Nat → Bool) (node : Nat)
    (new : before node = false) (visit : ∀ i, after i = (before i || i == node)) :
    ∀ nodes : List Nat, nodes.Nodup →
      total ((nodes.filter (!after ·)).map weight) + (if node ∈ nodes then weight node else 0) =
        total ((nodes.filter (!before ·)).map weight)
  | [], _ => by simp
  | i :: more, distinct => by
    obtain ⟨absent, distinct⟩ := List.nodup_cons.1 distinct
    have ih := total_filter_visit weight before after node new visit more distinct
    by_cases same : i = node
    · subst same
      simp only [absent, if_false] at ih
      simp [visit, new] at ih ⊢
      omega
    · have other : node ≠ i := fun h => same h.symm
      cases hb : before i <;> simp [visit, hb, same, other] at ih ⊢ <;> omega

theorem work_enter (arena : Arena) (node : Nat) (s : Search) (inside : node < arena.size)
    (new : s.isVisited node = false) : work arena (enter arena node s) = work arena s := by
  have visit : ∀ i, (enter arena node s).isVisited i = (s.isVisited i || i == node) := by
    intro i
    rw [Bool.eq_iff_iff]
    simp [isVisited, enter, eq_comm (a := node), or_comm, or_left_comm]
  have taken := total_filter_visit (fun node => (arena.successors node).length + 1) s.isVisited
    (enter arena node s).isVisited node new visit (List.range arena.size) List.nodup_range
  simp only [List.mem_range, inside, if_true] at taken
  simp only [work, unvisitedWork, ← taken]
  simp only [frameWork, enter, List.map_cons, total_cons]
  omega

/-- Every step from a path that is not empty leaves less to do. -/
theorem work_step_lt (arena : Arena) (s : Search) (busy : s.path ≠ []) :
    work arena (step arena s) < work arena s := by
  unfold step
  split
  · contradiction
  · rename_i node outer h
    have same : ∀ i, isVisited { s with path := outer, finished := node :: s.finished } i =
        s.isVisited i := by
      intro i
      rw [Bool.eq_iff_iff]
      simp [isVisited, h, eq_comm (a := node), or_left_comm, or_assoc]
    simp [work, unvisitedWork, frameWork, h, same]
  · rename_i node target more outer h
    have same : ∀ i, isVisited { s with path := ⟨node, more⟩ :: outer } i = s.isVisited i := by
      intro i; simp [isVisited, h]
    have less : work arena { s with path := ⟨node, more⟩ :: outer } < work arena s := by
      simp [work, unvisitedWork, frameWork, h, same]
    simp only
    split
    · simpa [close, work, unvisitedWork, isVisited] using less
    · rename_i offPath
      split
      · exact less
      · rename_i reachable
        simp only [Bool.or_eq_true, decide_eq_true_eq, not_or, Bool.not_eq_true]
          at reachable offPath
        rw [work_enter]
        · exact less
        · omega
        · simp only [isVisited, offPath, reachable.1, Bool.or_self]

/-- Steps until the path is empty: the current root and all that can be reached from it are then
finished. -/
def run (arena : Arena) (s : Search) : Search :=
  if _idle : s.path = [] then s else run arena (step arena s)
termination_by work arena s
decreasing_by exact work_step_lt arena s _idle

/-- Searches from a root unless it was visited before. -/
def fromRoot (arena : Arena) (s : Search) (root : Nat) : Search :=
  if s.isVisited root then s else run arena (enter arena root s)

def start : Search := ⟨[], [], [], []⟩

def all (arena : Arena) : Search := (List.range arena.size).foldl (fromRoot arena) start

end Search

/-! ## The cycles of a graph -/

/-- The reported walks of a graph and the edges of all closed walks. -/
structure CycleReport where
  walks : List (List Nat)
  pairs : List (Nat × Nat)
deriving DecidableEq, Repr

namespace DependencyGraph

/-- The internal edges of a graph as the search sees them. -/
def arena (graph : DependencyGraph String) : Search.Arena where
  size := graph.size
  successors := graph.successors
  name node := (graph.path? node).getD ""

/-- The import cycles of a graph. Roots are taken in node order and edges in edge order. -/
def findCycles (graph : DependencyGraph String) : CycleReport :=
  let s := Search.all graph.arena
  ⟨s.walks, s.pairs.eraseDups⟩

end DependencyGraph

end RepoAtlas
