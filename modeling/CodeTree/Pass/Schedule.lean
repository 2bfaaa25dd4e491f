/-! The order of passes: every pass after those it requires, and passes that become ready at the
same time in the order of their registration. -/
namespace CodeTree.Schedule

/-- A job that still waits for others, by their names. -/
structure Waiting (α : Type) where
  job : α
  missing : List String

variable {α : Type}

/-- A waiting job that no longer waits for the given one. -/
def Waiting.without (done : String) (w : Waiting α) : Waiting α :=
  { w with missing := w.missing.filter (· != done) }

/-- The jobs that wait for nothing more, and those that still wait. -/
def freed (waiting : List (Waiting α)) : List α :=
  (waiting.filter fun w => w.missing.isEmpty).map Waiting.job

def held (waiting : List (Waiting α)) : List (Waiting α) :=
  waiting.filter fun w => !w.missing.isEmpty

/-- Frees the jobs that waited for nothing but the given one. -/
def release (done : String) (waiting : List (Waiting α)) : List α × List (Waiting α) :=
  let waiting := waiting.map (Waiting.without done)
  (freed waiting, held waiting)

theorem length_freed_add_held (waiting : List (Waiting α)) :
    (freed waiting).length + (held waiting).length = waiting.length := by
  induction waiting with
  | nil => rfl
  | cons w rest ih =>
    cases h : w.missing.isEmpty <;> simp_all [freed, held] <;> omega

theorem length_release (done : String) (waiting : List (Waiting α)) :
    (release done waiting).1.length + (release done waiting).2.length = waiting.length :=
  (length_freed_add_held _).trans (List.length_map _)

/-- Serves the jobs that are ready, first come first served; those freed by a job join the end of
the queue. -/
def serve (name : α → String) : List α → List (Waiting α) → List α
  | [], _ => []
  | job :: ready, waiting =>
    job :: serve name (ready ++ (release (name job) waiting).1) (release (name job) waiting).2
termination_by ready waiting => ready.length + waiting.length
decreasing_by
  have := length_release (name job) waiting
  simp only [List.length_append, List.length_cons]
  omega

/-- Adds the jobs to those that are kept, the first of each name. -/
def firsts (name : α → String) (kept jobs : List α) : List α :=
  jobs.foldl (fun (kept : List α) job =>
    if kept.any fun k => name k == name job then kept else kept ++ [job]) kept

/-- The jobs, the first of each name, with the requirements that are jobs too. -/
def waitingList (name : α → String) (requires : α → List String) (jobs : List α) :
    List (Waiting α) :=
  let names := jobs.map name
  (firsts name [] jobs).map fun job => ⟨job, (requires job).filter names.contains⟩

/-- The jobs that are served, whether or not all of them are. -/
def served (name : α → String) (requires : α → List String) (jobs : List α) : List α :=
  serve name (freed (waitingList name requires jobs)) (held (waitingList name requires jobs))

/-- An order in which every job comes after its requirements; requirements that are no jobs are
ignored. None if the jobs wait for each other in a circle or a name is there twice. -/
def order? (name : α → String) (requires : α → List String) (jobs : List α) : Option (List α) :=
  if (served name requires jobs).length = jobs.length then some (served name requires jobs)
  else none

end CodeTree.Schedule
