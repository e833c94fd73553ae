import SyncLedger.Job.Basic

/-!
# The job before another one

Jobs are ordered by their creation time alone. The job before a given one is the latest
of those created strictly earlier; of several created at the same instant, the last one
in the list.
-/

namespace SyncLedger.Job

/-- The later of two things; the second one if neither is earlier. -/
def later {α : Type} (created : α → DateTime) (a b : α) : α :=
  if (created b).before (created a) then a else b

/-- The latest of some things; of several that are equally late, the last one. -/
def latest? {α : Type} (created : α → DateTime) : List α → Option α
  | [] => none
  | a :: as => some (as.foldl (later created) a)

/-- The latest of the things created strictly before an instant. -/
def latestBefore? {α : Type} (created : α → DateTime) (instant : DateTime) (as : List α) :
    Option α :=
  latest? created (as.filter fun a => (created a).before instant)

/-- The first job with an identifier. -/
def find? (jobs : List Job) (id : JobId) : Option Job := jobs.find? fun j => j.id = id

/-- The job created immediately before the first one with an identifier. -/
def previous? (jobs : List Job) (id : JobId) : Option Job :=
  (find? jobs id).bind fun target => latestBefore? createdAt target.createdAt jobs

/-- The job created immediately before the first one with an identifier, and its
position in the list. -/
def previousAt? (jobs : List Job) (id : JobId) : Option (Job × Nat) :=
  (find? jobs id).bind fun target =>
    latestBefore? (fun p => p.1.createdAt) target.createdAt jobs.zipIdx

end SyncLedger.Job
