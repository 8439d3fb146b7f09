/-
# Cells of the parts of a text

A text may take more cells in pieces than as a whole, since a joiner and what it joins may come apart.  There
is a number of cells that no way of cutting a text exceeds.

* `mostCells` : the cells of the characters one by one, with one for each selector;
* `cells_le_mostCells`, `mostCells_append` : a text takes no more, and the numbers of its parts add up.
-/
import CrateSync.Text.Cells

namespace CrateSync.Text

/-- The number of cells that a character takes at most, wherever it stands. -/
def mostCharCells (c : Char) : Nat :=
  if c = pictureSelector then 1 else charCells c

/-- The number of cells that the pieces of a text take at most, however it is cut. -/
def mostCells (t : Text) : Nat :=
  t.foldr (fun c most => mostCharCells c + most) 0

@[simp] theorem mostCells_nil : mostCells [] = 0 :=
  rfl

@[simp] theorem mostCells_cons (c : Char) (t : Text) :
    mostCells (c :: t) = mostCharCells c + mostCells t :=
  rfl

@[simp] theorem mostCells_append (t u : Text) : mostCells (t ++ u) = mostCells t + mostCells u := by
  induction t with
  | nil => simp
  | cons c t ih => rw [List.cons_append, mostCells_cons, mostCells_cons, ih, Nat.add_assoc]

theorem cellsBehind_le_mostCells (sign : Option Char) (t : Text) :
    cellsBehind sign t ≤ mostCells t := by
  fun_induction cellsBehind sign t with
  | case1 => exact Nat.zero_le _
  | case2 => exact Nat.zero_le _
  | case3 sign d rest ih =>
    simp only [mostCells_cons]
    omega
  | case4 sign rest _ ih =>
    have hselector : mostCharCells pictureSelector = 1 := rfl
    simp only [mostCells_cons, hselector]
    split <;> omega
  | case5 sign c rest _ _ _ ih =>
    simp only [mostCells_cons]
    omega
  | case6 sign c rest _ hselector _ ih =>
    have hown : mostCharCells c = charCells c := if_neg hselector
    simp only [mostCells_cons, hown]
    omega

/-- **A text takes no more cells** than its characters take at most. -/
theorem cells_le_mostCells (t : Text) : cells t ≤ mostCells t :=
  cellsBehind_le_mostCells none t

end CrateSync.Text
