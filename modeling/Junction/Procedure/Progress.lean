import Junction.Site

/-!
# Procedures in steps

What a task does is a sequence of steps on the site of its run, and other tasks may step in between.
A procedure therefore names the points at which it can stand; one step leads from a point to the
next one, or to the end of the procedure, or is not possible yet.

## Main definitions

* `Progress` — what the next step of a procedure does
* `Progress.within` — a step of a procedure as a step of a larger one
-/

namespace Junction

/-- What the next step of a procedure does, for points of `π` and a final result of `ρ`. -/
inductive Progress (π ρ : Type) where
  /-- The step is not possible yet. -/
  | blocked
  /-- The step changes the site and leads to a point. -/
  | next (site : Site) (point : π)
  /-- The step changes the site and ends the procedure. -/
  | done (site : Site) (result : ρ)

/-- A step of a procedure as a step of a larger procedure: each point of the smaller one is a point
of the larger one, and so is each end. -/
def Progress.within {π ρ π' ρ' : Type} (p : Progress π ρ) (inner : π → π') (after : ρ → π') :
    Progress π' ρ' :=
  match p with
  | .blocked => .blocked
  | .next site point => .next site (inner point)
  | .done site result => .next site (after result)

end Junction
