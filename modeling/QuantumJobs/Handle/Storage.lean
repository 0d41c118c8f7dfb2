import QuantumJobs.Files.Tree
import QuantumJobs.Handle.Record

/-!
# Storage — handles in files

A handle is saved as the text of its record.  Saving makes the directories that lead to the file.
-/

namespace QuantumJobs
namespace Handle

open Files (Path Tree)

def load (t : Tree) (p : Path) : Outcome Handle := do
  ofBlob (← (t.read p).mapError .files)

def save (t : Tree) (p : Path) (h : Handle) : Outcome Tree :=
  (t.save p (.text h.toText)).mapError .files

end Handle
end QuantumJobs
