import Mathlib.Logic.Function.Iterate
import QuantumJobs.Proofs.ResumedPolling

/-!
# RetoldFaults — faults rebuilt from their snapshots

A fault that ends a job is stored as a snapshot, and told again as the fault that the snapshot stands
for.  Of four kinds of faults a snapshot keeps all that there is, so they are told as they were, any
number of times.  Of all other faults it keeps no more than the wording, which is told as the reason
of a wrong use: with every telling the words for a wrong use are put in front once more.
-/

namespace QuantumJobs
namespace Fault

/-- The fault that stands in for a fault once its snapshot was taken. -/
def retold (fault : Fault) : Fault := (Failure.ofFault fault).toFault

/-- The faults of which a snapshot keeps everything. -/
inductive Kept : Fault → Prop where
  | jobFailed (code : Option Int) (message : String) : Kept (.jobFailed code message)
  | malformedResponse (reason : String) (response : Json) :
      Kept (.malformedResponse reason response)
  | authentication (message : String) : Kept (.authentication message)
  | transport (status : Option Nat) (message : String) : Kept (.transport status message)

/-- A wording with the words for a wrong use put in front a number of times. -/
def misused : Nat → String → String
  | 0, message => message
  | n + 1, message => "Invalid state: " ++ misused n message

variable {fault : Fault}

/-! ## One telling -/

/-- A status of sixteen bits is found again in the code of a snapshot. -/
theorem httpStatus?_ofFault {status : Option Nat} {message : String}
    (fits : (Fault.transport status message).Fits) :
    (Failure.ofFault (.transport status message)).httpStatus? = status := by
  cases status with
  | none => rfl
  | some s =>
      have small : s < 65536 := fits s rfl
      have bounds : 0 ≤ Int.ofNat s ∧ Int.ofNat s < 65536 :=
        ⟨Int.natCast_nonneg s, Int.ofNat_lt.2 small⟩
      have code : (Failure.ofFault (.transport (some s) message)).code = some (Int.ofNat s) := rfl
      unfold Failure.httpStatus?
      rw [code, Option.bind_some, if_pos bounds]
      rfl

theorem retold_of_kept (fits : fault.Fits) (kept : fault.Kept) : fault.retold = fault := by
  cases kept with
  | jobFailed code message => rfl
  | malformedResponse reason response => rfl
  | authentication message => rfl
  | transport status message =>
      show Fault.transport (Failure.ofFault (.transport status message)).httpStatus? message = _
      rw [httpStatus?_ofFault fits]

/-- Of any other fault the snapshot keeps the wording. -/
theorem ofFault_of_not_kept (lost : ¬ fault.Kept) :
    Failure.ofFault fault = ⟨.other, none, fault.message, none⟩ := by
  cases fault with
  | jobFailed code message => exact absurd (.jobFailed code message) lost
  | malformedResponse reason response => exact absurd (.malformedResponse reason response) lost
  | authentication message => exact absurd (.authentication message) lost
  | transport status message => exact absurd (.transport status message) lost
  | missingConfiguration => rfl
  | invalidConfiguration => rfl
  | unknownBackend => rfl
  | invalidState => rfl
  | serialization => rfl
  | files => rfl

theorem retold_of_not_kept (lost : ¬ fault.Kept) :
    fault.retold = .invalidState fault.message := by
  unfold retold
  rw [ofFault_of_not_kept lost]
  rfl

theorem not_kept_invalidState (message : String) : ¬ (Fault.invalidState message).Kept := by
  intro kept
  cases kept

/-! ## Many tellings -/

theorem retold_iterate_of_kept (fits : fault.Fits) (kept : fault.Kept) (n : Nat) :
    retold^[n] fault = fault :=
  Function.iterate_fixed (retold_of_kept fits kept) n

/-- Each telling after the first adds the words once. -/
theorem retold_iterate_of_not_kept (lost : ¬ fault.Kept) (n : Nat) :
    retold^[n + 1] fault = .invalidState (misused n fault.message) := by
  induction n with
  | zero => exact retold_of_not_kept lost
  | succ n ih =>
      -- From the first telling on the fault is a wrong use, which is not kept either.
      rw [Function.iterate_succ_apply', ih, retold_of_not_kept (not_kept_invalidState _)]
      rfl

/-- No wording is as long as it is with more words in front. -/
theorem misused_ne (message : String) : "Invalid state: " ++ message ≠ message := by
  intro same
  have lengths := congrArg String.length same
  rw [String.length_append] at lengths
  have words : "Invalid state: ".length = 15 := by decide
  omega

/-! ## Stored snapshots -/

/-- A snapshot that was stored and read back stands for the same fault. -/
theorem toFault_of_stored (fits : fault.Fits) (place : Json.Place) :
    ∃ f, Failure.decode place (Failure.ofFault fault).toJson = .ok f ∧ f.toFault = fault.retold :=
  ⟨_, Failure.decode_sorted (Failure.fits_ofFault fits) place, Failure.toFault_restored _⟩

/-- What becomes of a fault that is told from its snapshot, which may be stored and read back in
between.  A fault of which the snapshot keeps everything is itself after any number of tellings.  Of
any other, neither the wording nor the snapshot stays: after `n + 1` tellings it is a wrong use whose
reason is the first wording, with the words for a wrong use put in front `n` times. -/
theorem retold_unchanged_iff_kept (fits : fault.Fits) :
    (∀ place, ∃ f, Failure.decode place (Failure.ofFault fault).toJson = .ok f ∧
      f.toFault = fault.retold) ∧
    (fault.Kept → ∀ n, retold^[n] fault = fault) ∧
    (¬ fault.Kept → ∀ n, retold^[n + 1] fault = .invalidState (misused n fault.message)) ∧
    (fault.retold.message = fault.message ↔ fault.Kept) ∧
    (Failure.ofFault fault.retold = Failure.ofFault fault ↔ fault.Kept) := by
  refine ⟨toFault_of_stored fits, retold_iterate_of_kept fits, retold_iterate_of_not_kept,
    ⟨?_, ?_⟩, ⟨?_, ?_⟩⟩
  · intro same
    by_contra lost
    rw [retold_of_not_kept lost] at same
    exact misused_ne fault.message same
  · intro kept
    rw [retold_of_kept fits kept]
  · intro same
    by_contra lost
    rw [retold_of_not_kept lost, ofFault_of_not_kept lost,
      ofFault_of_not_kept (not_kept_invalidState _)] at same
    exact misused_ne fault.message (congrArg Failure.message same)
  · intro kept
    rw [retold_of_kept fits kept]

/-- A fault of the network with its status, and one that only its wording is kept of. -/
theorem retold_unavailable_and_unknown :
    (Fault.transport (some 503) "unavailable").Fits ∧
      (Fault.transport (some 503) "unavailable").Kept ∧
      retold^[2] (.transport (some 503) "unavailable") = .transport (some 503) "unavailable" ∧
      (Fault.unknownBackend "x").Fits ∧
      retold^[2] (.unknownBackend "x") = .invalidState "Invalid state: Unknown backend: 'x'" := by
  have fits : (Fault.transport (some 503) "unavailable").Fits := by
    rintro s ⟨⟩
    decide
  have kept : (Fault.transport (some 503) "unavailable").Kept := .transport _ _
  have lost : ¬ (Fault.unknownBackend "x").Kept := by
    intro kept
    cases kept
  refine ⟨fits, kept, (retold_unchanged_iff_kept fits).2.1 kept 2, trivial, ?_⟩
  exact (@retold_unchanged_iff_kept (.unknownBackend "x") trivial).2.2.1 lost 1

/-- It is not so that every fault is told from its snapshot in the same words, or that its snapshot
is the same again: a wrong use is told as the wrong use of a wrong use. -/
theorem wrong_use_told_twice :
    ¬ ∀ fault : Fault, fault.Fits → fault.retold.message = fault.message ∧
      Failure.ofFault fault.retold = Failure.ofFault fault := by
  intro always
  obtain ⟨wording, _⟩ := always (.invalidState "submit needs a kernel") trivial
  exact misused_ne _ wording

end Fault
end QuantumJobs
