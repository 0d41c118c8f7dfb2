import QuantumJobs.Fermioniq.Status
import QuantumJobs.Proofs.AcceptedShapes
import QuantumJobs.Proofs.HandleRecord

/-!
# StatusVerdict — what the emulator's status says of a job

A status is judged by four fields, of which only one has to be there.  What a field must hold is
looked at before what it says, so a status of which one field cannot be read ends the job as
malformed, whatever the others say.  Any other status says that the job has succeeded, that it has
failed and why, or that it is still under way.
-/

namespace QuantumJobs

/-! ## Fields that may be null -/

/-- The value under a name, where null counts as none. -/
def Dict.given (m : Dict Json) (name : String) : Option Json :=
  (m.get? name).filter fun v => !v.isNull

theorem Dict.get?_of_given {m : Dict Json} {name : String} {v : Json}
    (given : m.given name = some v) : m.get? name = some v :=
  (Option.filter_eq_some_iff.1 given).1

namespace Json

variable {α : Type}

/-- An optional field is read from what is given under its name. -/
theorem Shape.build_optional_given {name : String} {d : Decoder α} (m : Dict Json) :
    (Shape.optional name d).build (Entries.find? m.entries) =
      match m.given name with
      | some v => (d v).map some
      | none => .ok none := by
  unfold Dict.given Dict.get?
  cases found : Entries.find? m.entries name with
  | none => exact Shape.build_optional_absent found
  | some v =>
      rw [Shape.build_optional found]
      cases v <;> rfl

/-- An optional field is read as it should be if what is given reads so. -/
theorem Shape.build_optional_ok {name : String} {d : Decoder α} {m : Dict Json} {a? : Option α}
    {write : α → Json} (given : m.given name = a?.map write)
    (read : ∀ a, a? = some a → d (write a) = .ok a) :
    (Shape.optional name d).build (Entries.find? m.entries) = .ok a? := by
  rw [build_optional_given, given]
  cases a? with
  | none => rfl
  | some a =>
      show (d (write a)).map some = _
      rw [read a rfl]
      rfl

/-- What was read of an optional field tells what is given under its name. -/
theorem Shape.given_of_build_optional {name : String} {d : Decoder α} {m : Dict Json}
    {a? : Option α} {write : α → Json} (write_of : ∀ v a, d v = .ok a → v = write a)
    (built : (Shape.optional name d).build (Entries.find? m.entries) = .ok a?) :
    m.given name = a?.map write := by
  rw [build_optional_given] at built
  cases given : m.given name with
  | none =>
      rw [given] at built
      cases built
      rfl
  | some v =>
      rw [given] at built
      obtain ⟨a, read, rfl⟩ := of_map_ok built
      exact congrArg some (write_of v a read)

end Json

namespace Fermioniq
namespace Status

/-! ## What a status holds -/

/-- The fields of an object are those of a status. -/
structure Holds (m : Dict Json) (s : Status) : Prop where
  status : m.get? "status" = some (.str s.status)
  code : m.given "status_code" = s.code.map .int
  inRange : ∀ code, s.code = some code → Json.minSigned ≤ code ∧ code ≤ Json.maxSigned
  message : m.given "status_message" = s.message.map .str
  error : m.given "error" = s.error

theorem decode_of_holds {m : Dict Json} {s : Status} (holds : Holds m s) :
    decode (.obj m.entries) = .ok s := by
  have code := Json.Shape.build_optional_ok (d := Json.asSigned) holds.code fun code here =>
    Json.asSigned_int (holds.inRange code here).1 (holds.inRange code here).2
  have message := Json.Shape.build_optional_ok (d := Json.asText) holds.message fun _ _ => rfl
  have given : m.given "error" = s.error.map id := by
    rw [holds.error, Option.map_id, id]
  have error := Json.Shape.build_optional_ok (d := Json.asIs) given fun _ _ => rfl
  have status : Entries.find? m.entries "status" = some (.str s.status) := holds.status
  unfold decode
  -- The fields are read one by one, and no other name in the object is in the way.
  apply Json.recordOfFields_ok _ m.ascending
  · rw [Json.Shape.build_seq, Json.Shape.build_seq, Json.Shape.build_seq, Json.Shape.build_map,
      Json.Shape.build_required status, code, message, error]
    rfl
  · exact (((Json.Shape.lawful_required _ _).map.seq (Json.Shape.lawful_optional _ _)).seq
      (Json.Shape.lawful_optional _ _)).seq (Json.Shape.lawful_optional _ _)

/-- The code of a status that was read is a number of sixty-four bits. -/
theorem inRange_of_decode {m : Json} {s : Status} (read : decode m = .ok s) :
    ∀ code, s.code = some code → Json.minSigned ≤ code ∧ code ≤ Json.maxSigned := by
  obtain ⟨_, _, built⟩ := Json.given_of_record read
  obtain ⟨_, _, built₃, _, rfl⟩ := Json.Shape.of_build_seq built
  obtain ⟨_, _, built₂, _, rfl⟩ := Json.Shape.of_build_seq built₃
  obtain ⟨_, code?, built₁, codeBuilt, rfl⟩ := Json.Shape.of_build_seq built₂
  obtain ⟨_, _, rfl⟩ := Json.Shape.of_build_map built₁
  rintro code ⟨⟩
  obtain ⟨_, _, codeRead⟩ := Json.Shape.of_build_optional codeBuilt
  exact (Json.of_asIntegerIn codeRead).2

theorem holds_of_decode {m : Dict Json} {s : Status} (read : decode (.obj m.entries) = .ok s) :
    Holds m s := by
  obtain ⟨_, _, built⟩ := of_bind_ok read
  -- The fields are built from left to right, so the last one comes off first.
  obtain ⟨_, error, built₃, errorBuilt, rfl⟩ := Json.Shape.of_build_seq built
  obtain ⟨_, message, built₂, messageBuilt, rfl⟩ := Json.Shape.of_build_seq built₃
  obtain ⟨_, code, built₁, codeBuilt, rfl⟩ := Json.Shape.of_build_seq built₂
  obtain ⟨text, textBuilt, rfl⟩ := Json.Shape.of_build_map built₁
  obtain ⟨v, found, textRead⟩ := Json.Shape.of_build_required textBuilt
  refine ⟨?_, ?_, ?_, ?_, ?_⟩
  · rw [Json.of_asText textRead] at found
    exact found
  · exact Json.Shape.given_of_build_optional (fun v n read => (Json.of_asIntegerIn read).1) codeBuilt
  · exact inRange_of_decode read
  · exact Json.Shape.given_of_build_optional (fun v text read => Json.of_asText read) messageBuilt
  · have given : m.given "error" = error.map id :=
      Json.Shape.given_of_build_optional (fun v w read => Except.ok.inj read) errorBuilt
    rwa [Option.map_id, id] at given

/-! ## Verdicts -/

/-- A status of which a field cannot be read, or that is finished without a code. -/
inductive Malformed (m : Dict Json) : Prop where
  | status : (∀ text, m.get? "status" ≠ some (.str text)) → Malformed m
  | code {v : Json} : m.given "status_code" = some v →
      (∀ n, Json.minSigned ≤ n → n ≤ Json.maxSigned → v ≠ .int n) → Malformed m
  | message {v : Json} : m.given "status_message" = some v → (∀ text, v ≠ .str text) → Malformed m
  | noCode : m.get? "status" = some (.str "finished") → m.given "status_code" = none → Malformed m

/-- A value as it is told: a text as it is, any other value as JSON. -/
def told : Json → String
  | .str text => text
  | v => v.text

/-- Why a job failed that finished with a code other than 0. -/
inductive Reason (m : Dict Json) (code : Int) : String → Prop where
  | message {text : String} : m.given "status_message" = some (.str text) → Reason m code text
  | error {v : Json} : m.given "status_message" = none → m.given "error" = some v →
      Reason m code (told v)
  | neither : m.given "status_message" = none → m.given "error" = none →
      Reason m code ("job finished with status code " ++ toString code)

/-- What a status says of the job if it is not malformed. -/
inductive Tells (m : Dict Json) : Outcome Bool → Prop where
  | succeeded : m.get? "status" = some (.str "finished") → m.get? "status_code" = some (.int 0) →
      Tells m (.ok true)
  | finishedBadly {code : Int} {reason : String} : m.get? "status" = some (.str "finished") →
      m.get? "status_code" = some (.int code) → code ≠ 0 → Reason m code reason →
        Tells m (.error (.jobFailed (some code) reason))
  | failed {status : String} {code? : Option Int} {v : Json} :
      m.get? "status" = some (.str status) → status ≠ "finished" →
        m.given "status_code" = code?.map .int → m.given "error" = some v →
          Tells m (.error (.jobFailed code? (told v)))
  | underWay {status : String} : m.get? "status" = some (.str status) → status ≠ "finished" →
      m.given "error" = none → Tells m (.ok false)

/-- A value that is given only as one of a type stands for one, or for none. -/
theorem exists_given {α : Type} {given? : Option Json} {write : α → Json} {allowed : α → Prop}
    (proper : ∀ v, given? = some v → ∃ a, allowed a ∧ v = write a) :
    ∃ a? : Option α, given? = a?.map write ∧ ∀ a, a? = some a → allowed a := by
  cases given? with
  | none => exact ⟨none, rfl, fun a none => nomatch none⟩
  | some v =>
      obtain ⟨a, ok, rfl⟩ := proper v rfl
      refine ⟨some a, rfl, ?_⟩
      rintro _ ⟨⟩
      exact ok

/-- An object that is not malformed holds a status. -/
theorem exists_holds {m : Dict Json} (wellFormed : ¬ Malformed m) :
    ∃ s, Holds m s ∧ (s.status = "finished" → s.code ≠ none) := by
  obtain ⟨text, status⟩ : ∃ text, m.get? "status" = some (.str text) := by
    by_contra none
    exact wellFormed (.status fun text here => none ⟨text, here⟩)
  have codes : ∀ v, m.given "status_code" = some v →
      ∃ n, (Json.minSigned ≤ n ∧ n ≤ Json.maxSigned) ∧ v = .int n := by
    intro v given
    by_contra none
    exact wellFormed (.code given fun n low high is => none ⟨n, ⟨low, high⟩, is⟩)
  have messages : ∀ v, m.given "status_message" = some v → ∃ text, True ∧ v = .str text := by
    intro v given
    by_contra none
    exact wellFormed (.message given fun text is => none ⟨text, trivial, is⟩)
  obtain ⟨code?, code, inRange⟩ := exists_given codes
  obtain ⟨message?, message, _⟩ := exists_given messages
  refine ⟨⟨text, code?, message?, m.given "error"⟩, ⟨status, code, inRange, message, rfl⟩, ?_⟩
  rintro rfl rfl
  exact wellFormed (.noCode status code)

theorem isDoneMessage_of_decode {m : Json} {s : Status} (read : decode m = .ok s) :
    isDoneMessage m = s.isDone m := by
  unfold isDoneMessage reading
  rw [read]
  rfl

theorem isDoneMessage_of_mismatch {m : Json} {mismatch : Json.Mismatch}
    (read : decode m = .error mismatch) :
    isDoneMessage m
      = .error (.malformedResponse ("invalid job status: " ++ mismatch.message) m) := by
  unfold isDoneMessage reading
  rw [read]
  rfl

/-- The error that is told is the one that is given. -/
theorem errorText_of_holds {m : Dict Json} {s : Status} (holds : Holds m s) :
    s.errorText = (m.given "error").map told := by
  unfold errorText
  rw [← holds.error]
  unfold Dict.given
  cases m.get? "error" with
  | none => rfl
  | some v => cases v <;> rfl

theorem reason_of_holds {m : Dict Json} {s : Status} (holds : Holds m s) (code : Int) :
    Reason m code (s.finishedMessage code) := by
  have message := holds.message
  unfold finishedMessage
  rw [errorText_of_holds holds]
  cases here : s.message with
  | some text =>
      rw [here] at message
      exact .message message
  | none =>
      rw [here] at message
      cases error : m.given "error" with
      | some v => exact .error message error
      | none => exact .neither message error

/-- What a status is read as is what it says. -/
theorem tells_of_holds {m : Dict Json} {s : Status} (holds : Holds m s)
    (hasCode : s.status = "finished" → s.code ≠ none) : Tells m (s.isDone (.obj m.entries)) := by
  have status := holds.status
  have code := holds.code
  unfold isDone
  by_cases finished : s.status = "finished"
  · rw [if_pos finished]
    rw [finished] at status
    cases here : s.code with
    | none => exact absurd here (hasCode finished)
    | some n =>
        rw [here] at code
        have found := Dict.get?_of_given code
        by_cases zero : n = 0
        · simp only [if_pos zero]
          exact .succeeded status (zero ▸ found)
        · simp only [if_neg zero]
          exact .finishedBadly status found zero (reason_of_holds holds n)
  · rw [if_neg finished, errorText_of_holds holds]
    cases error : m.given "error" with
    | none => exact .underWay status finished error
    | some v => exact .failed status finished code error

theorem isDoneMessage_of_malformed {m : Dict Json} (malformed : Malformed m) :
    ∃ reason, isDoneMessage (.obj m.entries)
      = .error (.malformedResponse reason (.obj m.entries)) := by
  cases read : decode (.obj m.entries) with
  | error mismatch => exact ⟨_, isDoneMessage_of_mismatch read⟩
  -- What could be read holds of the fields, so only a missing code is left.
  | ok s =>
      have holds := holds_of_decode read
      cases malformed with
      | status noText => exact absurd holds.status (noText s.status)
      | code given noCode =>
          obtain ⟨n, here, rfl⟩ := Option.map_eq_some_iff.1 (holds.code.symm.trans given)
          obtain ⟨low, high⟩ := holds.inRange n here
          exact absurd rfl (noCode n low high)
      | message given noText =>
          obtain ⟨text, _, rfl⟩ := Option.map_eq_some_iff.1 (holds.message.symm.trans given)
          exact absurd rfl (noText text)
      | noCode finished missing =>
          -- The fields can be read, but not the verdict.
          have status : s.status = "finished" := by
            have same := holds.status.symm.trans finished
            simpa using same
          have code : s.code = none := Option.map_eq_none_iff.1 (holds.code.symm.trans missing)
          refine ⟨"finished job has no 'status_code'", ?_⟩
          rw [isDoneMessage_of_decode read, isDone, if_pos status, code]

theorem finishedMessage_of_reason {m : Dict Json} {s : Status} (holds : Holds m s) {code : Int}
    {reason : String} (why : Reason m code reason) : s.finishedMessage code = reason := by
  have message := holds.message
  unfold finishedMessage
  rw [errorText_of_holds holds]
  cases why with
  | message given =>
      rw [given] at message
      obtain ⟨text, here, same⟩ := Option.map_eq_some_iff.1 message.symm
      cases same
      rw [here]
      rfl
  | error none given =>
      rw [Option.map_eq_none_iff.1 (message.symm.trans none), given]
      rfl
  | neither none none' =>
      rw [Option.map_eq_none_iff.1 (message.symm.trans none), none']
      rfl

/-- What a status says can be told from what it is read as. -/
theorem isDone_of_tells {m : Dict Json} {s : Status} (holds : Holds m s) {answer : Outcome Bool}
    (tells : Tells m answer) : s.isDone (.obj m.entries) = answer := by
  have statusIs : ∀ text, m.get? "status" = some (.str text) → s.status = text := by
    intro text status
    have same := holds.status.symm.trans status
    simpa using same
  have codeIs : ∀ code, m.get? "status_code" = some (.int code) → s.code = some code := by
    intro code found
    have given : m.given "status_code" = some (.int code) := by
      unfold Dict.given
      rw [found]
      rfl
    obtain ⟨n, here, same⟩ := Option.map_eq_some_iff.1 (holds.code.symm.trans given)
    cases same
    exact here
  cases tells with
  | succeeded status code =>
      rw [isDone, if_pos (statusIs _ status), codeIs _ code]
      rfl
  | finishedBadly status code nonzero reason =>
      rw [isDone, if_pos (statusIs _ status), codeIs _ code]
      simp only [if_neg nonzero, finishedMessage_of_reason holds reason]
      rfl
  | failed status unfinished code error =>
      have code' : s.code = _ := Option.map_injective (fun _ _ => Json.int.inj)
        (holds.code.symm.trans code)
      rw [isDone, if_neg (statusIs _ status ▸ unfinished), errorText_of_holds holds, error, code']
      rfl
  | underWay status unfinished none =>
      rw [isDone, if_neg (statusIs _ status ▸ unfinished), errorText_of_holds holds, none]
      rfl

/-- An object is taken for malformed, with the whole of it kept, exactly if a field cannot be read
or a finished job has no code; and if it is not malformed, the answer is what it says. -/
theorem verdict_of_object (m : Dict Json) :
    ((∃ reason, isDoneMessage (.obj m.entries)
        = .error (.malformedResponse reason (.obj m.entries))) ↔ Malformed m) ∧
      ∀ answer, ¬ Malformed m → (isDoneMessage (.obj m.entries) = answer ↔ Tells m answer) := by
  refine ⟨⟨?_, ?_⟩, ?_⟩
  · rintro ⟨reason, malformed⟩
    by_contra wellFormed
    obtain ⟨s, holds, hasCode⟩ := exists_holds wellFormed
    have tells := tells_of_holds holds hasCode
    rw [← isDoneMessage_of_decode (decode_of_holds holds), malformed] at tells
    cases tells
  · exact isDoneMessage_of_malformed
  · intro answer wellFormed
    obtain ⟨s, holds, hasCode⟩ := exists_holds wellFormed
    rw [isDoneMessage_of_decode (decode_of_holds holds)]
    constructor
    · rintro rfl
      exact tells_of_holds holds hasCode
    · exact isDone_of_tells holds

/-- A job that finished with a code other than 0, where the reason is not a text. -/
def outOfMemory : Dict Json :=
  Dict.ofList [("status", .str "finished"), ("status_code", .int 7), ("status_message", .null),
    ("error", .obj [("kind", .str "oom")])]

/-- The error stands in for the message, which is null. -/
theorem verdict_of_outOfMemory :
    ¬ Malformed outOfMemory ∧
      isDoneMessage (.obj outOfMemory.entries)
        = .error (.jobFailed (some 7) (Json.obj [("kind", .str "oom")]).text) := by
  have wellFormed : ¬ Malformed outOfMemory := by
    intro malformed
    cases malformed with
    | status noText => exact noText "finished" rfl
    | code given noCode =>
        cases given
        exact noCode 7 (by decide) (by decide) rfl
    | message given _ => cases given
    | noCode _ missing => cases missing
  have why : Reason outOfMemory 7 (told (.obj [("kind", .str "oom")])) := .error rfl rfl
  have tells := Tells.finishedBadly rfl rfl (by decide) why
  exact ⟨wellFormed, ((verdict_of_object outOfMemory).2 _ wellFormed).2 tells⟩

end Status
end Fermioniq
end QuantumJobs
