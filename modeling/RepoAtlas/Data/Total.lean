/-!
# Totals

Recursions over lists of pending work end because the work that is left, added up over the list,
becomes less. `total` is that sum.
-/

namespace RepoAtlas

def total : List Nat → Nat
  | [] => 0
  | n :: rest => n + total rest

@[simp] theorem total_nil : total [] = 0 := rfl

@[simp] theorem total_cons (n : Nat) (rest : List Nat) : total (n :: rest) = n + total rest := rfl

@[simp] theorem total_append (first second : List Nat) :
    total (first ++ second) = total first + total second := by
  induction first with
  | nil => simp
  | cons n rest ih => simp [ih, Nat.add_assoc]

end RepoAtlas
