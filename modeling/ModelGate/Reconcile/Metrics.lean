import ModelGate.Decide.Metrics
import ModelGate.Reconcile.Program

/-!
# Counting passes

What the controller counts: evaluations by backend kind and phase, removals of routes by backend
kind and result, and the statuses that it stored.
-/

namespace ModelGate

structure ControllerMetrics where
  reconciles : List (Tally (String × String))
  cleanups : List (Tally (String × String))
  statusPatches : Nat
  deriving DecidableEq, Repr

namespace ControllerMetrics

/-- The counts before anything happened. -/
def zero : ControllerMetrics :=
  ⟨[], [], 0⟩

/-- Counts what a program notes. -/
def note (m : ControllerMetrics) : Note → ControllerMetrics
  | .reconciled kind phase =>
    { m with reconciles := Tally.bump (kind, phase.elim "" Phase.text) m.reconciles }
  | .cleanedUp kind ok =>
    { m with cleanups := Tally.bump (kind, if ok then "ok" else "error") m.cleanups }
  | .statusPatched => { m with statusPatches := m.statusPatches + 1 }
  | .called _ | .settled _ => m

/-- The number of evaluations. -/
def evaluations (m : ControllerMetrics) : Nat :=
  m.reconciles.foldr (·.count + ·) 0

/-- The samples of the counts. -/
def samples (m : ControllerMetrics) : List String :=
  m.reconciles.map (fun t =>
      Tally.line "reconciles_total" ("kind", t.key.1) ("phase", t.key.2) t.count) ++
    m.cleanups.map (fun t =>
      Tally.line "cleanups_total" ("kind", t.key.1) ("result", t.key.2) t.count) ++
    ["status_patches_total " ++ toString m.statusPatches,
      "reconcile_duration_seconds_count " ++ toString m.evaluations]

/-- The lines of a text, without comments and empty lines. -/
def sampleLines (text : String) : List String :=
  (text.splitOn "\n").filter fun line => line != "" && !line.startsWith "#"

/-- The sample lines in ascending order. Names of kinds are written as they are, so that a line
break in one makes two lines of its sample. -/
def report (m : ControllerMetrics) : List String :=
  (m.samples.flatMap sampleLines).mergeSort fun a b => decide (a ≤ b)

end ControllerMetrics

end ModelGate
