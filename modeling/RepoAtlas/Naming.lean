import RepoAtlas.Text.Split

/-!
# What names say by convention

Both language families mark visibility by how a name is spelled: a hash sign or two leading
underscores make it private, one leading underscore makes it protected, and two underscores at both
ends make it public again. Dotted names are cut at their dots.
-/

namespace RepoAtlas.Naming

open Text

def lastPart (name : String) : String := afterLast '.' name

def firstPart (name : String) : String := beforeFirst '.' name

def visibility (name : String) : String :=
  if startsWith "#" name then "private"
  else if startsWith "__" name && !endsWith "__" name then "private"
  else if startsWith "_" name && !startsWith "__" name then "protected"
  else "public"

/-- The names that are not empty, each once, in the order of their first occurrence. -/
def distinct (names : List String) : List String := (names.filter (· != "")).eraseDups

theorem nodup_eraseDups : ∀ names : List String, names.eraseDups.Nodup
  | [] => by simp
  | name :: more => by
    rw [List.eraseDups_cons, List.nodup_cons]
    exact ⟨by simp, nodup_eraseDups (more.filter fun other => !other == name)⟩
termination_by names => names.length
decreasing_by simpa using Nat.lt_succ_of_le (List.length_filter_le _ _)

/-- The names, each once, in ascending order. -/
def ascending (names : List String) : List String := names.eraseDups.mergeSort

theorem mem_ascending {name : String} {names : List String} :
    name ∈ ascending names ↔ name ∈ names := by
  simp [ascending]

end RepoAtlas.Naming
