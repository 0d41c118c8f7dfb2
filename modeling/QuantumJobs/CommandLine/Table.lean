import QuantumJobs.Decimal.Layout
import QuantumJobs.Failure
import QuantumJobs.SampleResult

/-!
# Table — results and failures as lines

A result is shown as one table per circuit: the most frequent outcomes with their counts, their
shares in percent and a bar of one block for every two percent.
-/

namespace QuantumJobs
namespace CommandLine

/-- How many outcomes a table shows. -/
def tableRows : Nat := 16

/-- The share of a count in percent. -/
def percentage (count total : Nat) : Float :=
  if total = 0 then 0.0 else count.toUInt64.toFloat / total.toUInt64.toFloat * 100.0

def bar (percent : Float) : String :=
  String.ofList (List.replicate (percent / 2.0).round.toUInt64.toNat '█')

/-- The line of one outcome. -/
def outcomeLine (total : Nat) (e : String × Nat) : String :=
  let percent := percentage e.2 total
  "  " ++ e.1 ++ ": " ++ Text.padLeft 6 (toString e.2) ++ " ("
    ++ Text.padLeft 5 (Decimal.fixed 2 percent) ++ "%) " ++ bar percent

def executionLines (e : Execution) : List String :=
  let ranked := e.counts.ranked
  ["", "✓ " ++ e.name ++ " (" ++ toString e.counts.shots ++ " shots):"]
    ++ (ranked.take tableRows).map (outcomeLine e.counts.shots)
    ++ (if tableRows < ranked.length then
        ["  ... and " ++ toString (ranked.length - tableRows) ++ " more outcomes"]
      else [])

def resultLines (r : SampleResult) : List String := r.executions.flatMap executionLines

def failureLine (f : Failure) : String :=
  let code := match f.code with
    | some c => ", code " ++ toString c
    | none => ""
  "✗ Job failed (" ++ f.kind.title ++ code ++ "): " ++ f.message

end CommandLine
end QuantumJobs
