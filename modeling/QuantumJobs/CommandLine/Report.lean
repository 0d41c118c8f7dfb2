import QuantumJobs.Handle.Basic

/-!
# Report — a job and its outcome as JSON
-/

namespace QuantumJobs
namespace CommandLine

/-- The report of a job: result and failure only where there is one. -/
def report (h : Handle) : Json :=
  .obj ([("backend", .str h.backend), ("job_id", .str h.job), ("phase", .str h.phase.name)]
    ++ (h.result?.map fun r => ("result", r.document)).toList
    ++ (h.failure?.map fun f => ("failure", f.document)).toList)

end CommandLine
end QuantumJobs
