import QuantumJobs.CommandLine.Arguments
import QuantumJobs.Fermioniq.Session

/-!
# Program — from arguments to an exit status
-/

namespace QuantumJobs
namespace CommandLine

variable {τ : Type}

/-- How a run of the program ends. -/
structure Ending where
  exit : Nat
  output : String
  errors : String
  deriving DecidableEq, Repr, Inhabited

/-- The backends that the program knows. -/
def knownBackends : Registry Fermioniq.Session :=
  Registry.register Dict.empty Fermioniq.backendName .fresh

/-- A site with the known backends. -/
def Site.standard (network : Network τ) (environment : Environment) (home : Option Files.Path)
    (time : Instant) (patience : Nat) : Site Fermioniq.Session τ where
  backend := Fermioniq.backend
  registry := knownBackends
  network
  environment
  home
  time
  patience

/-- A world in which nothing has been printed or sent. -/
def World.fresh (files : Files.Tree) (wire : τ) : World Fermioniq.Session τ :=
  ⟨files, ⟨.fresh, wire, []⟩, "", .zero⟩

def usage : String :=
  "Usage: " ++ Release.name ++ " [-v]... <command>\n\nCommands:\n"
    ++ String.join (forms.map fun form => "  " ++ form.name ++ "\n") ++ "  help\n"

/-- What a halted or finished action shows. -/
def endingOf {σ : Type} : Except Halt Unit × World σ τ → Ending
  | (.ok (), w) => ⟨0, w.printed, ""⟩
  | (.error (.trouble t), w) => ⟨1, w.printed, "Error: " ++ t.message ++ "\n"⟩
  | (.error .interrupted, w) => ⟨130, w.printed, ""⟩

/-- Runs the program. -/
def runProgram {σ : Type} (site : Site σ τ) (args : List String) (w : World σ τ) :
    Ending × World σ τ :=
  match readArguments args with
  | .refused => (⟨2, "", usage⟩, w)
  | .help => (⟨0, usage, ""⟩, w)
  | .version => (⟨0, Release.name ++ " " ++ Release.version ++ "\n", ""⟩, w)
  | .command c =>
      let ended := (c.run site).run w
      (endingOf ended, ended.2)

end CommandLine
end QuantumJobs
