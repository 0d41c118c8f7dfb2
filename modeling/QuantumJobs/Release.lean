/-!
# Release — the name and version that the program goes by
-/

namespace QuantumJobs
namespace Release

def name : String := "qrest"

def version : String := "0.1.0"

end Release
end QuantumJobs
