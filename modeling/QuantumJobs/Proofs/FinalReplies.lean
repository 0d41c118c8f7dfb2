import QuantumJobs.Network.Http
import QuantumJobs.Proofs.PollVerdict
import QuantumJobs.Proofs.ResumedSession
import QuantumJobs.Proofs.TrimmedText
import QuantumJobs.Proofs.WaitSteps

/-!
# FinalReplies — what HTTP replies make of a job

A poll asks for the status of a job and, if the job is done, for its results.  If the reply to
either GET is 401, the login is renewed and the GET repeated, and what counts is the reply to the
last one.  Of such a final reply the backend is only told if it is one of success that carries
nothing, blank text or JSON text.  Every other one is a fault of the network with the status of the
reply, which does not end the job, whatever the reply tells.
-/

namespace QuantumJobs
namespace Http

/-! ## What a reply carries -/

namespace Response

/-- The status is one of success. -/
def Succeeds (r : Response) : Prop := 200 ≤ r.status ∧ r.status < 300

/-- The body is white space. -/
def Blank (r : Response) : Prop := ∀ c ∈ r.body.lenient.toList, Text.isBlank c = true

/-- The message in a reply. -/
inductive Carries (r : Response) : Json → Prop where
  | noContent : r.status = 204 → Carries r .null
  | blank : r.Succeeds → r.Blank → Carries r .null
  | value {v : Json} : r.Succeeds → r.status ≠ 204 → ¬ r.Blank →
      Json.ofText r.body.lenient = .ok v → Carries r v

/-- The fault that stands for a reply without a message. -/
inductive FaultyAs (r : Response) : Fault → Prop where
  | unsuccessful : ¬ r.Succeeds → FaultyAs r (.transport (some r.status) r.text)
  | unreadable {e : Json.SyntaxError} : r.Succeeds → r.status ≠ 204 → ¬ r.Blank →
      Json.ofText r.body.lenient = .error e →
        FaultyAs r (.transport (some r.status) (invalidJson e))

variable {r : Response}

theorem isSuccess_iff : r.isSuccess = true ↔ r.Succeeds := by
  rw [isSuccess, Bool.and_eq_true, decide_eq_true_iff, decide_eq_true_iff]
  rfl

theorem text_of_succeeds (succeeds : r.Succeeds) (contents : r.status ≠ 204) :
    r.text = r.body.lenient := by
  have other : r.status ≠ 304 := by
    have := succeeds.2
    omega
  simp [text, contents, other]

theorem message_of_blank (succeeds : r.Succeeds)
    (blank : ∀ c ∈ r.text.toList, Text.isBlank c = true) : r.message = .ok .null := by
  rw [message, if_pos (isSuccess_iff.2 succeeds), Text.trimChars_eq_nil.2 blank]
  rfl

theorem message_of_text (succeeds : r.Succeeds) (contents : r.status ≠ 204) (shown : ¬ r.Blank) :
    r.message = (Json.ofText r.body.lenient).mapError fun e =>
      .transport (some r.status) (invalidJson e) := by
  have notEmpty : ¬ (Text.trimChars r.text.toList).isEmpty = true := by
    rw [List.isEmpty_iff, Text.trimChars_eq_nil, text_of_succeeds succeeds contents]
    exact shown
  rw [message, if_pos (isSuccess_iff.2 succeeds), if_neg notEmpty,
    text_of_succeeds succeeds contents]

theorem message_of_carries {m : Json} (carries : r.Carries m) : r.message = .ok m := by
  cases carries with
  | noContent same =>
      have succeeds : r.Succeeds := by
        unfold Succeeds
        omega
      -- Whatever stands in the body, there is no text.
      refine message_of_blank succeeds ?_
      simp [text, same]
  | blank succeeds blank =>
      refine message_of_blank succeeds ?_
      by_cases contents : r.status = 204
      · simp [text, contents]
      · rw [text_of_succeeds succeeds contents]
        exact blank
  | value succeeds contents shown read =>
      rw [message_of_text succeeds contents shown, read]
      rfl

theorem message_of_faultyAs {fault : Fault} (faulty : r.FaultyAs fault) :
    r.message = .error fault := by
  cases faulty with
  | unsuccessful fails => rw [message, if_neg (mt isSuccess_iff.1 fails)]
  | unreadable succeeds contents shown read =>
      rw [message_of_text succeeds contents shown, read]
      rfl

/-- Every reply has a message or a fault in its place. -/
theorem carries_or_faultyAs (r : Response) : (∃ m, r.Carries m) ∨ ∃ fault, r.FaultyAs fault := by
  by_cases succeeds : r.Succeeds
  · by_cases contents : r.status = 204
    · exact .inl ⟨_, .noContent contents⟩
    · by_cases blank : r.Blank
      · exact .inl ⟨_, .blank succeeds blank⟩
      · cases read : Json.ofText r.body.lenient with
        | ok v => exact .inl ⟨v, .value succeeds contents blank read⟩
        | error e => exact .inr ⟨_, .unreadable succeeds contents blank read⟩
  · exact .inr ⟨_, .unsuccessful succeeds⟩

theorem carries_iff {m : Json} : r.Carries m ↔ r.message = .ok m := by
  refine ⟨message_of_carries, ?_⟩
  intro same
  rcases carries_or_faultyAs r with ⟨m', carries⟩ | ⟨fault, faulty⟩
  · cases (message_of_carries carries).symm.trans same
    exact carries
  · cases (message_of_faultyAs faulty).symm.trans same

/-- A token is not accepted exactly if the status is 401. -/
theorem message_unauthorized_iff :
    (∃ text, r.message = .error (.transport (some 401) text)) ↔ r.status = 401 := by
  constructor
  · rintro ⟨text, same⟩
    rcases carries_or_faultyAs r with ⟨m, carries⟩ | ⟨fault, faulty⟩
    · cases (message_of_carries carries).symm.trans same
    · have fault := Except.error.inj ((message_of_faultyAs faulty).symm.trans same)
      cases faulty with
      | unsuccessful _ => exact Option.some.inj (Fault.transport.inj fault).1
      | unreadable _ _ _ _ => exact Option.some.inj (Fault.transport.inj fault).1
  · intro same
    have fails : ¬ r.Succeeds := by
      unfold Succeeds
      omega
    exact ⟨r.text, same ▸ message_of_faultyAs (.unsuccessful fails)⟩

end Response

/-! ## Replies to requests -/

section

variable {τ : Type} (deliver : Method → Url → Received → τ → Option Response × τ)

/-- The reply to a request that can be phrased and reaches a server. -/
def reply? (r : Request) (wire : τ) : Option (Response × τ) :=
  match phrase r with
  | .error _ => none
  | .ok (url, received) =>
      match deliver r.method url received wire with
      | (some response, wire) => some (response, wire)
      | (none, _) => none

variable {deliver} {r : Request} {wire wire' : τ}

theorem answer_of_reply {response : Response}
    (replied : reply? deliver r wire = some (response, wire')) :
    (networkBy deliver).answer r wire = (response.message, wire') := by
  unfold reply? at replied
  rcases phrased : phrase r with fault | ⟨url, received⟩
  · simp [phrased] at replied
  · rcases delivered : deliver r.method url received wire with ⟨_ | response', wire₁⟩
    · simp [phrased, delivered] at replied
    · simp only [phrased, delivered, Option.some.injEq] at replied
      cases replied
      simp only [networkBy, phrased, delivered]

/-- Where a request cannot be phrased, the fault has no status. -/
theorem status_of_phrase {fault : Fault} (phrased : phrase r = .error fault) :
    ∃ text, fault = .transport none text := by
  unfold phrase at phrased
  split at phrased
  · cases phrased
    exact ⟨_, rfl⟩
  · dsimp only at phrased
    split_ifs at phrased <;> cases phrased <;> exact ⟨_, rfl⟩

/-- Without a reply there is a fault of the network that has no status. -/
theorem answer_of_no_reply (silent : reply? deliver r wire = none) :
    ∃ text, ((networkBy deliver).answer r wire).1 = .error (.transport none text) := by
  unfold reply? at silent
  rcases phrased : phrase r with fault | ⟨url, received⟩
  · obtain ⟨text, rfl⟩ := status_of_phrase phrased
    exact ⟨text, by simp only [networkBy, phrased]⟩
  · rcases delivered : deliver r.method url received wire with ⟨_ | response', wire₁⟩
    · exact ⟨_, by simp only [networkBy, phrased, delivered]; rfl⟩
    · simp [phrased, delivered] at silent

end

end Http

namespace Backend

/-! ## Final replies -/

section

variable {σ τ : Type} (b : Backend σ)
  (deliver : Method → Url → Http.Received → τ → Option Http.Response × τ) (now : Instant)

/-- The reply to a GET with the headers of the moment, if there is one. -/
def getReply? (path : String) (line : Line σ τ) : Option (Http.Response × Line σ τ) :=
  let r : Request := .get (b.baseUrl line.state) path (b.headers line.state)
  (Http.reply? deliver r line.wire).map fun (response, wire) =>
    (response, { line with wire, sent := line.sent ++ [r] })

/-- The reply that counts of those to the GETs of a path. -/
inductive FinalReply (path : String) (line : Line σ τ) : Http.Response → Line σ τ → Prop where
  | only {r : Http.Response} {line' : Line σ τ} :
      b.getReply? deliver path line = some (r, line') → r.status ≠ 401 →
        FinalReply path line r line'
  /-- The token is not accepted, and the GET is repeated with a fresh one. -/
  | repeated {r₁ r : Http.Response} {line₁ line₂ line₃ : Line σ τ} :
      b.getReply? deliver path line = some (r₁, line₁) → r₁.status = 401 →
        b.refresh.run (Http.networkBy deliver) now line₁ = (.ok (), line₂) →
          b.getReply? deliver path line₂ = some (r, line₃) → FinalReply path line r line₃

variable {b deliver now} {path : String} {line line' : Line σ τ}

theorem get_of_reply {r : Http.Response}
    (replied : b.getReply? deliver path line = some (r, line')) :
    b.get (Http.networkBy deliver) path line = (r.message, line') := by
  obtain ⟨⟨_, wire⟩, found, same⟩ := Option.map_eq_some_iff.1 replied
  cases same
  simp only [get, Http.answer_of_reply found]

/-- What is answered with a message, or with the status of a fault, has been replied to. -/
theorem reply_of_get {answer : Outcome Json}
    (got : b.get (Http.networkBy deliver) path line = (answer, line'))
    (heard : ∀ text, answer ≠ .error (.transport none text)) :
    ∃ r, b.getReply? deliver path line = some (r, line') ∧ r.message = answer := by
  cases replied : Http.reply? deliver
      (.get (b.baseUrl line.state) path (b.headers line.state)) line.wire with
  | none =>
      obtain ⟨text, silent⟩ := Http.answer_of_no_reply replied
      simp only [get, silent, Prod.mk.injEq] at got
      exact absurd got.1.symm (heard text)
  | some reply =>
      have found : b.getReply? deliver path line = some (reply.1, _) :=
        Option.map_eq_some_iff.2 ⟨reply, replied, rfl⟩
      cases (get_of_reply found).symm.trans got
      exact ⟨reply.1, found, rfl⟩

/-- What the final reply says is what a fetch comes to. -/
theorem fetched_of_finalReply {r : Http.Response} {answer : Outcome Json}
    (final : b.FinalReply deliver now path line r line') (told : r.message = answer) :
    b.Fetched (Http.networkBy deliver) now path line answer line' := by
  subst told
  cases final with
  | only replied accepted =>
      refine .accepted (get_of_reply replied) ?_
      intro text same
      exact accepted (Http.Response.message_unauthorized_iff.1 ⟨text, same⟩)
  | repeated replied refused refreshed again =>
      obtain ⟨text, unauthorized⟩ := Http.Response.message_unauthorized_iff.2 refused
      have got := get_of_reply replied
      rw [unauthorized] at got
      exact .repeated got refreshed (get_of_reply again)

/-- Where a fetch comes to a message, a final reply has carried it. -/
theorem finalReply_of_fetched {m : Json}
    (fetched : b.Fetched (Http.networkBy deliver) now path line (.ok m) line') :
    ∃ r, b.FinalReply deliver now path line r line' ∧ r.Carries m := by
  cases fetched with
  | accepted got accepted =>
      obtain ⟨r, replied, same⟩ := reply_of_get got nofun
      refine ⟨r, .only replied ?_, Http.Response.carries_iff.2 same⟩
      intro refused
      obtain ⟨text, unauthorized⟩ := Http.Response.message_unauthorized_iff.2 refused
      cases same.symm.trans unauthorized
  | repeated got refreshed again =>
      -- A fault of 401 can only come from a reply, so there were two.
      obtain ⟨r₁, replied, same₁⟩ := reply_of_get got nofun
      obtain ⟨r, replied', same⟩ := reply_of_get again nofun
      have refused := Http.Response.message_unauthorized_iff.1 ⟨_, same₁⟩
      exact ⟨r, .repeated replied refused refreshed replied', Http.Response.carries_iff.2 same⟩

end
end Backend

namespace Fermioniq
namespace Session

/-! ## Verdicts on messages -/

section

variable {τ : Type} (deliver : Method → Url → Http.Received → τ → Option Http.Response × τ)
  (now : Instant) (h : Handle) (line : Line Session τ)

/-- The final reply to the GETs of the results, which are asked for once the message in the final
reply to those of the status says that the job is done. -/
inductive ResultsReply : Http.Response → Line Session τ → Prop where
  | intro {r r' : Http.Response} {m : Json} {line₁ line₂ : Line Session τ} :
      backend.FinalReply deliver now h.statusPath line r line₁ → r.Carries m →
        Status.isDoneMessage m = .ok true →
          backend.FinalReply deliver now (resultsPath h.job) line₁ r' line₂ → ResultsReply r' line₂

/-- How the messages in final replies end a job, and what is then answered. -/
inductive EndsWith : Outcome Poll → JobOutcome → Prop where
  | badStatus {r : Http.Response} {m : Json} {fault : Fault} {line₁ : Line Session τ} :
      backend.FinalReply deliver now h.statusPath line r line₁ → r.Carries m →
        Status.isDoneMessage m = .error fault →
          EndsWith (.error fault) (.failed (.ofFault fault))
  | badResults {r : Http.Response} {m : Json} {fault : Fault} {line₂ : Line Session τ} :
      ResultsReply deliver now h line r line₂ → r.Carries m → Results.ofMessage m = .error fault →
        EndsWith (.error fault) (.failed (.ofFault fault))
  | results {r : Http.Response} {m : Json} {result : SampleResult} {line₂ : Line Session τ} :
      ResultsReply deliver now h line r line₂ → r.Carries m → Results.ofMessage m = .ok result →
        EndsWith (.ok (.done (result.nameByKernels h.kernels)))
          (.done (result.nameByKernels h.kernels))

variable {deliver now h line}

theorem collected_of_resultsReply {r : Http.Response} {answer : Outcome Json}
    {line₂ : Line Session τ} (replied : ResultsReply deliver now h line r line₂)
    (told : r.message = answer) :
    backend.Collected (Http.networkBy deliver) now h line answer line₂ := by
  obtain ⟨status, carries, done, results⟩ := replied
  have fetched := Backend.fetched_of_finalReply status (Http.Response.message_of_carries carries)
  exact .intro fetched done (.separate rfl (Backend.fetched_of_finalReply results told))

theorem resultsReply_of_collected {m : Json} {line₂ : Line Session τ}
    (collected : backend.Collected (Http.networkBy deliver) now h line (.ok m) line₂) :
    ∃ r, ResultsReply deliver now h line r line₂ ∧ r.Carries m := by
  obtain ⟨fetched, done, message⟩ := collected
  obtain ⟨r, status, carries⟩ := Backend.finalReply_of_fetched fetched
  cases message with
  | status none => cases none
  | separate some fetched' =>
      cases some
      obtain ⟨r', results, carries'⟩ := Backend.finalReply_of_fetched fetched'
      exact ⟨r', .intro status carries done results, carries'⟩

theorem finds_of_endsWith {answer : Outcome Poll} {o : JobOutcome}
    (ends : EndsWith deliver now h line answer o) :
    ∃ c, backend.Finds (Http.networkBy deliver) now h line c ∧ c.poll = answer ∧
      c.outcome? = some o := by
  cases ends with
  | badStatus status carries bad =>
      have told := Http.Response.message_of_carries carries
      exact ⟨_, .badStatus (Backend.fetched_of_finalReply status told) bad, rfl, rfl⟩
  | badResults replied carries bad =>
      have told := Http.Response.message_of_carries carries
      exact ⟨_, .badResults (collected_of_resultsReply replied told) bad, rfl, rfl⟩
  | results replied carries read =>
      have told := Http.Response.message_of_carries carries
      exact ⟨_, .results (collected_of_resultsReply replied told) read, rfl, rfl⟩

theorem endsWith_of_finds {c : Check} {o : JobOutcome}
    (finds : backend.Finds (Http.networkBy deliver) now h line c) (ended : c.outcome? = some o) :
    EndsWith deliver now h line c.poll o := by
  cases finds with
  | noStatus => cases ended
  | notDone => cases ended
  | noResults => cases ended
  | badStatus fetched bad =>
      cases ended
      obtain ⟨r, status, carries⟩ := Backend.finalReply_of_fetched fetched
      exact .badStatus status carries bad
  | badResults collected bad =>
      cases ended
      obtain ⟨r, replied, carries⟩ := resultsReply_of_collected collected
      exact .badResults replied carries bad
  | results collected read =>
      cases ended
      obtain ⟨r, replied, carries⟩ := resultsReply_of_collected collected
      exact .results replied carries read

/-- What one poll of an unresolved handle makes of the replies to its GETs, over HTTP and whatever
is replied.  It ends the job exactly as the backend judges the messages in the final replies, and so
only if each of these is one of success that carries nothing, blank text or JSON text.  A final
reply of another status, or of other text, leaves the handle as it is and is answered with a fault
of the network that has its status.  A message by which the job is not done leaves the handle as it
is, too, and is answered with the time until the next poll. -/
theorem final_replies_decide {h' : Handle} {answer : Outcome Poll} (pending : h.outcome = none)
    (own : h.backend = backendName)
    (polled : ((backend.poll h).run (Http.networkBy deliver) now line).1 = (answer, h')) :
    (∀ a o, answer = a ∧ h'.outcome = some o ↔ EndsWith deliver now h line a o) ∧
      (∀ r line' fault, backend.FinalReply deliver now h.statusPath line r line' ∨
          ResultsReply deliver now h line r line' →
        r.FaultyAs fault → answer = .error fault ∧ h' = h) ∧
      ∀ r line₁ m, backend.FinalReply deliver now h.statusPath line r line₁ → r.Carries m →
        Status.isDoneMessage m = .ok false →
          answer = .ok (.pending (.ofSeconds 1)) ∧ h' = h := by
  obtain ⟨c, finds⟩ := backend.finds_total (Http.networkBy deliver) now h line
  -- Any way out that the check takes is the one that it took.
  have only : ∀ {c' : Check}, backend.Finds (Http.networkBy deliver) now h line c' → c = c' := by
    intro c' other
    rw [← Backend.finds_iff.1 finds, ← Backend.finds_iff.1 other]
  rw [Backend.run_poll_of_pending pending own.symm, Backend.finds_iff.1 finds] at polled
  cases polled
  refine ⟨?_, ?_, ?_⟩
  · intro a o
    rw [Handle.outcome_settle pending]
    constructor
    · rintro ⟨rfl, ended⟩
      exact endsWith_of_finds finds ended
    · intro ends
      obtain ⟨c', finds', answers, ended⟩ := finds_of_endsWith ends
      rw [only finds']
      exact ⟨answers, ended⟩
  · rintro r line' fault (status | results) faulty
    · have told := Http.Response.message_of_faultyAs faulty
      rw [only (.noStatus (Backend.fetched_of_finalReply status told))]
      exact ⟨rfl, Handle.settle_of_outcome?_none rfl⟩
    · have told := Http.Response.message_of_faultyAs faulty
      rw [only (.noResults (collected_of_resultsReply results told))]
      exact ⟨rfl, Handle.settle_of_outcome?_none rfl⟩
  · intro r line₁ m status carries notDone
    have told := Http.Response.message_of_carries carries
    rw [only (.notDone (Backend.fetched_of_finalReply status told) notDone)]
    exact ⟨rfl, Handle.settle_of_outcome?_none rfl⟩

end

/-- A server of the local machine, where the token that was given first has expired.  To every GET
with another token it replies with a page and a status. -/
def gateway (status : Nat) (method : Method) (_ : Url) (received : Http.Received) (wire : Unit) :
    Option Http.Response × Unit :=
  if method = .post then
    (some ⟨200, .text "\x7b\"jwt_token\": \"second\", \"user_id\": \"u\"\x7d"⟩, wire)
  else if received.headers.get? "authorization" = some "Bearer first" then
    (some ⟨401, .text "expired"⟩, wire)
  else (some ⟨status, .text "<html>"⟩, wire)

def localUrl : Config := slashedUrl.insert "base_url" "http://[::1]"

/-- A line to that server, with the token that was given first. -/
def localLine : Line Session Unit :=
  ((backend.connect .empty localUrl).run (SharedFile.saying (welcome "first")) ⟨0, 0, 0⟩
    ⟨.fresh, (), []⟩).2

/-- The GET of the job's status. -/
def statusRequest (s : Session) : Request :=
  .get (backend.baseUrl s) acceptedJob.statusPath (backend.headers s)

/-- What that shows on the wire. -/
def shownToGateway (s : Session) : Option String :=
  match Http.phrase (statusRequest s) with
  | .ok (_, received) => received.headers.get? "authorization"
  | .error _ => none

/-- The line once it has been sent. -/
def askedLine (line : Line Session Unit) : Line Session Unit :=
  { line with sent := line.sent ++ [statusRequest line.state] }

theorem getReply?_gateway (status : Nat) {line : Line Session Unit} {value : String}
    (shown : shownToGateway line.state = some value) :
    backend.getReply? (gateway status) acceptedJob.statusPath line
      = some (if value = "Bearer first" then ⟨401, .text "expired"⟩ else ⟨status, .text "<html>"⟩,
          askedLine line) := by
  unfold shownToGateway at shown
  split at shown
  · rename_i url received sent
    have get : (statusRequest line.state).method ≠ .post := nofun
    have reply : Http.reply? (gateway status) (statusRequest line.state) line.wire
        = some (if value = "Bearer first" then ⟨401, .text "expired"⟩
            else ⟨status, .text "<html>"⟩, line.wire) := by
      unfold Http.reply? gateway
      simp only [sent, shown, get, if_false, Option.some.injEq]
      by_cases first : value = "Bearer first" <;> simp [first]
    unfold statusRequest at reply
    simp only [Backend.getReply?, reply]
    rfl
  · cases shown

/-- The token has expired, a fresh one is shown, and the page comes with its status. -/
theorem finalReply_gateway : ∀ status ∈ [204, 502], ∃ line',
    backend.FinalReply (gateway status) ⟨0, 0, 0⟩ acceptedJob.statusPath localLine
      ⟨status, .text "<html>"⟩ line' := by
  have expired : shownToGateway localLine.state = some "Bearer first" := by decide +kernel
  have renewed : ∀ status ∈ [204, 502],
      let run := backend.refresh.run (Http.networkBy (gateway status)) ⟨0, 0, 0⟩
        (askedLine localLine)
      run.1.isOk ∧ shownToGateway run.2.state = some "Bearer second" := by
    decide +kernel
  intro status among
  -- The GET is refused, the login is renewed, and the GET is repeated with the second token.
  obtain ⟨succeeds, shown⟩ := renewed status among
  rcases refreshed : backend.refresh.run (Http.networkBy (gateway status)) ⟨0, 0, 0⟩
    (askedLine localLine) with ⟨fault | _, line₂⟩
  · rw [refreshed] at succeeds
    cases succeeds
  · rw [refreshed] at shown
    have first := getReply?_gateway status expired
    have again := getReply?_gateway status shown
    rw [if_pos rfl] at first
    rw [if_neg (by decide)] at again
    exact ⟨_, .repeated first rfl refreshed again⟩

/-- An error page is no verdict on the job, but a status without contents is one. -/
theorem final_replies_decide_acceptedJob :
    acceptedJob.outcome = none ∧ acceptedJob.backend = backendName ∧
      ((backend.poll acceptedJob).run (Http.networkBy (gateway 502)) ⟨0, 0, 0⟩ localLine).1
        = (.error (.transport (some 502) "<html>"), acceptedJob) ∧
      ∃ fault, ((backend.poll acceptedJob).run (Http.networkBy (gateway 204)) ⟨0, 0, 0⟩
        localLine).1.2.outcome = some (.failed (.ofFault fault)) := by
  refine ⟨rfl, rfl, ?_, ?_⟩
  · obtain ⟨_, final⟩ := finalReply_gateway 502 (by decide)
    obtain ⟨_, lost, _⟩ := @final_replies_decide _ (gateway 502) ⟨0, 0, 0⟩ acceptedJob localLine
      _ _ rfl rfl Prod.mk.eta.symm
    have fails : ¬ (⟨502, .text "<html>"⟩ : Http.Response).Succeeds := by
      rintro ⟨_, below⟩
      exact absurd below (by decide)
    obtain ⟨answer, handle⟩ := lost _ _ _ (.inl final) (.unsuccessful fails)
    exact Prod.ext answer handle
  · obtain ⟨_, final⟩ := finalReply_gateway 204 (by decide)
    obtain ⟨ends, _⟩ := @final_replies_decide _ (gateway 204) ⟨0, 0, 0⟩ acceptedJob localLine
      _ _ rfl rfl Prod.mk.eta.symm
    obtain ⟨fault, bad⟩ : ∃ fault, Status.isDoneMessage .null = .error fault := ⟨_, rfl⟩
    exact ⟨fault, ((ends _ _).2 (.badStatus final (.noContent rfl) bad)).2⟩

end Session
end Fermioniq
end QuantumJobs
