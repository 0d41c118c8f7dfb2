import QuantumJobs.Proofs.PollVerdict
import QuantumJobs.Proofs.TokenLedger
import QuantumJobs.Proofs.TokenSource

/-!
# FetchTraces — what one poll sends

A poll of a pending job fetches the status and, where there is something to fetch, the results.  A
fetch is one GET, unless the GET is answered with 401: then the token is renewed, and if that
succeeds the GET is sent once more, with the headers of that moment.  The second answer is final.

Polls that share a session renew its token together, and other logins may be completed between the
answer to a refresh and the second GET.  The headers of the moment then have the latest token.
-/

namespace QuantumJobs

/-! ## Fetches -/

/-- The exchanges of one fetch. -/
inductive FetchLog
  /-- One GET, whose answer is not a 401. -/
  | once (get : Exchange)
  /-- A GET that was answered with 401, and a refresh that failed. -/
  | notRefreshed (get : Exchange) (refresh : List Exchange) (fault : Fault)
  /-- A GET that was answered with 401, a refresh, and the GET once more. -/
  | repeated (get : Exchange) (refresh : List Exchange) (again : Exchange)

namespace FetchLog

/-- The exchanges in their order. -/
def exchanges : FetchLog → List Exchange
  | .once get => [get]
  | .notRefreshed get refresh _ => get :: refresh
  | .repeated get refresh again => get :: (refresh ++ [again])

/-- What the fetch gives. -/
def answer : FetchLog → Outcome Json
  | .once get => get.answer
  | .notRefreshed _ _ fault => .error fault
  | .repeated _ _ again => again.answer

end FetchLog

namespace Backend

variable {σ τ : Type} (b : Backend σ) (net : Network τ) (now : Instant)

/-- The exchange of a GET with the headers of the moment. -/
def getExchange (path : String) (line : Line σ τ) : Exchange :=
  ⟨.get (b.baseUrl line.state) path (b.headers line.state), (b.get net path line).1⟩

/-- How a path is fetched, from one place on a line to another. -/
inductive FetchedBy (path : String) (line : Line σ τ) : FetchLog → Line σ τ → Prop where
  | once {line' : Line σ τ} :
      (b.get net path line).2 = line' → isUnauthorized (b.get net path line).1 = false →
        FetchedBy path line (.once (b.getExchange net path line)) line'
  | notRefreshed {fault : Fault} {line₁ line₂ : Line σ τ} :
      (b.get net path line).2 = line₁ → isUnauthorized (b.get net path line).1 = true →
        b.refresh.run net now line₁ = (.error fault, line₂) →
          FetchedBy path line
            (.notRefreshed (b.getExchange net path line) (b.refresh.exchanges net now line₁) fault)
            line₂
  | repeated {line₁ line₂ line₃ : Line σ τ} :
      (b.get net path line).2 = line₁ → isUnauthorized (b.get net path line).1 = true →
        b.refresh.run net now line₁ = (.ok (), line₂) → (b.get net path line₂).2 = line₃ →
          FetchedBy path line
            (.repeated (b.getExchange net path line) (b.refresh.exchanges net now line₁)
              (b.getExchange net path line₂))
            line₃

/-- The path of the results if they have to be fetched after the status fetch has given an answer:
the status says that the job is done, and the backend has a path for results. -/
def resultsDue (h : Handle) (s : σ) : Outcome Json → Option String
  | .error _ => none
  | .ok status =>
      match b.isDone s status with
      | .ok true => b.resultsPath s h.job
      | _ => none

/-- How a job is polled: its status is fetched, and its results if they are due after that. -/
inductive PolledBy (h : Handle) (line : Line σ τ) : List FetchLog → Prop where
  | status {log : FetchLog} {line₁ : Line σ τ} :
      b.FetchedBy net now h.statusPath line log line₁ →
        b.resultsDue h line₁.state log.answer = none → PolledBy h line [log]
  | results {log log' : FetchLog} {path : String} {line₁ line₂ : Line σ τ} :
      b.FetchedBy net now h.statusPath line log line₁ →
        b.resultsDue h line₁.state log.answer = some path →
          b.FetchedBy net now path line₁ log' line₂ → PolledBy h line [log, log']

variable {b net now} {path : String} {h : Handle} {line line' : Line σ τ}

theorem exchanges_getOnce (path : String) (line : Line σ τ) :
    (b.getOnce path).exchanges net now line = [b.getExchange net path line] := rfl

/-- Every fetch goes one of the three ways. -/
theorem fetchedBy_fetch (b : Backend σ) (net : Network τ) (now : Instant) (path : String)
    (line : Line σ τ) :
    ∃ log line', b.FetchedBy net now path line log line' ∧
      (b.fetch path).exchanges net now line = log.exchanges ∧
      (b.fetch path).run net now line = (log.answer, line') := by
  cases unauthorized : isUnauthorized (b.get net path line).1 with
  | false =>
      refine ⟨_, _, .once rfl unauthorized, ?_, ?_⟩
      · simp [fetch, exchanges_getOnce, run_getOnce, unauthorized, FetchLog.exchanges]
      · simp [fetch, run_getOnce, unauthorized, FetchLog.answer, getExchange]
  | true =>
      rcases refreshed : b.refresh.run net now (b.get net path line).2 with ⟨fault | _, line₂⟩
      · refine ⟨_, _, .notRefreshed rfl unauthorized refreshed, ?_, ?_⟩
        · simp [fetch, exchanges_getOnce, run_getOnce, unauthorized, refreshed, FetchLog.exchanges]
        · simp [fetch, run_getOnce, unauthorized, refreshed, FetchLog.answer]
      · refine ⟨_, _, .repeated rfl unauthorized refreshed rfl, ?_, ?_⟩
        · simp [fetch, exchanges_getOnce, run_getOnce, unauthorized, refreshed, FetchLog.exchanges]
        · simp [fetch, run_getOnce, unauthorized, refreshed, FetchLog.answer, getExchange]

/-! ## Polls -/

theorem resultsDue_eq_some {s : σ} {answer : Outcome Json} :
    b.resultsDue h s answer = some path ↔
      ∃ status, answer = .ok status ∧ b.isDone s status = .ok true ∧
        b.resultsPath s h.job = some path := by
  cases answer with
  | error fault => simp [resultsDue]
  | ok status =>
      rcases done : b.isDone s status with fault | _ | _ <;> simp [resultsDue, done]

theorem exchanges_readResults (m : Json) : (b.readResults h m).exchanges net now line = [] := by
  simp only [readResults, Dialogue.exchanges]
  cases (b.results m h.job line.state).1 <;> rfl

theorem exchanges_collect (status : Json) :
    (b.collect h status).exchanges net now line =
      match b.resultsPath line.state h.job with
      | none => []
      | some path => (b.fetch path).exchanges net now line := by
  simp only [collect, Dialogue.exchanges_bind, Dialogue.exchanges_state, Dialogue.run_state,
    List.nil_append]
  cases b.resultsPath line.state h.job with
  | none => exact exchanges_readResults status
  | some path =>
      simp only [Dialogue.exchanges_bind]
      cases ((b.fetch path).run net now line).1 with
      | error fault => exact List.append_nil _
      | ok m =>
          simp only [exchanges_readResults]
          exact List.append_nil _

/-- A check sends what its status fetch sends, and then what the fetch of the results sends if they
are due. -/
theorem exchanges_check_of_fetched {status : Outcome Json}
    (fetched : (b.fetch h.statusPath).run net now line = (status, line')) :
    (b.check h).exchanges net now line =
      (b.fetch h.statusPath).exchanges net now line ++
        match b.resultsDue h line'.state status with
        | none => []
        | some path => (b.fetch path).exchanges net now line' := by
  simp only [check, Dialogue.exchanges_bind, fetched, resultsDue]
  cases status with
  | error fault => rfl
  | ok m =>
      simp only [Dialogue.exchanges_bind, Dialogue.exchanges_state, Dialogue.run_state,
        List.nil_append]
      rcases b.isDone line'.state m with fault | _ | _
      · rfl
      · rfl
      · simp only [exchanges_collect]

theorem exchanges_poll_of_pending (pending : h.outcome = none)
    (own : b.name line.state = h.backend) :
    (b.poll h).exchanges net now line = (b.check h).exchanges net now line := by
  simp [poll, Handle.known?, pending, own]

/-- A check sends what one fetch or two fetches in a row send, and what the last of them fails with
interrupts it. -/
theorem polledBy_check (b : Backend σ) (net : Network τ) (now : Instant) (h : Handle)
    (line : Line σ τ) :
    ∃ logs, b.PolledBy net now h line logs ∧
      (b.check h).exchanges net now line = logs.flatMap FetchLog.exchanges ∧
      ∀ last fault, logs.getLast? = some last → last.answer = .error fault →
        ((b.check h).run net now line).1 = .interrupted fault := by
  obtain ⟨log, line₁, fetched, sent, run⟩ := fetchedBy_fetch b net now h.statusPath line
  rw [exchanges_check_of_fetched run, sent]
  cases due : b.resultsDue h line₁.state log.answer with
  | none =>
      refine ⟨[log], .status fetched due, by simp, ?_⟩
      intro last fault isLast failed
      obtain rfl : log = last := Option.some.inj isLast
      rw [failed] at run
      rw [run_check_of_noStatus (fetched_iff.2 run)]
  | some path =>
      obtain ⟨log', line₂, fetched', sent', run'⟩ := fetchedBy_fetch b net now path line₁
      refine ⟨[log, log'], .results fetched due fetched', by simp [sent'], ?_⟩
      intro last fault isLast failed
      obtain rfl : log' = last := Option.some.inj isLast
      obtain ⟨status, answer, done, here⟩ := resultsDue_eq_some.1 due
      rw [answer] at run
      rw [failed] at run'
      have message : b.ResultsMessage net now h status line₁ (.error fault) line₂ :=
        .separate here (fetched_iff.2 run')
      rw [run_check_of_collected (.intro (fetched_iff.2 run) done message)]
      rfl

/-- A backend sends nothing for a pending job of another one. -/
theorem exchanges_poll_of_foreign (pending : h.outcome = none)
    (foreign : b.name line.state ≠ h.backend) : (b.poll h).exchanges net now line = [] := by
  simp [poll, Handle.known?, pending, foreign]

/-- Whatever a poll sends belongs to one of the fetches of a check. -/
theorem polledBy_of_sent {x : Exchange} (sent : x ∈ (b.poll h).exchanges net now line) :
    ∃ logs, b.PolledBy net now h line logs ∧ ∃ log ∈ logs, x ∈ log.exchanges := by
  cases known : h.known? (b.name line.state) with
  | some told =>
      simp [poll, known] at sent
  | none =>
      obtain ⟨pending, own⟩ := known?_eq_none.1 known
      obtain ⟨logs, polled, whole, _⟩ := polledBy_check b net now h line
      rw [exchanges_poll_of_pending pending own, whole] at sent
      exact ⟨logs, polled, List.mem_flatMap.1 sent⟩

end Backend

/-! ## Renewed tokens -/

namespace Fermioniq
namespace Session

variable {τ : Type} {net : Network τ} {now : Instant} {line : Line Session τ}

/-- The headers carry a bearer token, and nothing else for authorization. -/
def Bears (h : Headers) (text : String) : Prop :=
  ∀ value, Carries h value ↔ value = "Bearer " ++ text

theorem answer_refresh_of_none (settings : line.state.settings = none) :
    (refresh.run net now line).1 ≠ .ok () := by
  simp [refresh, login, settings, Dialogue.run, TokenCache.record, Except.map]

/-- A refresh succeeds if its login is granted a token. -/
theorem answer_refresh {a : Settings} (settings : line.state.settings = some a) :
    (refresh.run net now line).1 = .ok () ↔
      ∃ t, tokenOf now (net.answer a.loginRequest line.wire).1 = .ok t := by
  cases answered : (net.answer a.loginRequest line.wire).1 with
  | error fault =>
      simp [refresh, login, settings, answered, Dialogue.run, TokenCache.record, Except.map]
  | ok m =>
      cases read : Token.ofLogin m "jwt_token" (some "user_id") now <;>
        simp [refresh, login, settings, answered, read, Dialogue.run, TokenCache.record, Except.map]

/-- The headers of a session that holds a token. -/
theorem bears_of_current {s : Session} {a : Settings} {t : Token}
    (settings : s.settings = some a) (current : s.tokens.current = some t) (text : t.text ≠ "") :
    Bears s.headers t.text := by
  have shown : s.tokens.text?.filter (· ≠ "") = some t.text := by
    simp [TokenCache.text?, current, text]
  have whole : s.headers = a.headers.insert "Authorization" ("Bearer " ++ t.text) := by
    unfold headers
    simp only [settings, shown]
  rw [whole]
  exact fun value => carries_insert_iff a

/-- A refresh succeeds only by one login of its own, and the headers then carry the token that this
login was granted, and nothing else for authorization. -/
theorem bears_of_refreshed {line' : Line Session τ}
    (refreshed : refresh.run net now line = (.ok (), line')) :
    ∃ a answer text user, line.state.settings = some a ∧
      refresh.exchanges net now line = [⟨a.loginRequest, answer⟩] ∧ Grants answer text user ∧
      Bears line'.state.headers text := by
  have answered : (refresh.run net now line).1 = .ok () := by rw [refreshed]
  cases settings : line.state.settings with
  | none => exact absurd answered (answer_refresh_of_none settings)
  | some a =>
      obtain ⟨t, read⟩ := (answer_refresh settings).1 answered
      obtain ⟨user, _, grants⟩ := tokenOf_eq_ok.1 read
      have current := current_refresh net now settings
      have after : (refresh.run net now line).2.state.settings = line.state.settings :=
        settings_run_refresh line
      rw [read] at current
      rw [refreshed] at current after
      have notEmpty : t.text ≠ "" := by
        obtain ⟨_, _, _, notEmpty, _⟩ := grants
        exact notEmpty
      exact ⟨a, _, t.text, user, rfl, exchanges_refresh net now settings, grants,
        bears_of_current (after.trans settings) current notEmpty⟩

end Session
end Fermioniq

namespace Backend

open TokenCache (Gate StandsSince)

variable {σ τ : Type}

/-- What a poll of a pending job sends: the exchanges of one fetch of the status, followed, exactly
if the status says that the job is done and the backend has a path for results, by those of one
fetch of the results.  A fetch is a GET with the headers of the moment; only if it is answered with
401 the token is renewed once, and only if that succeeds the GET is sent once more.  Its answer is
then the answer of the fetch, and whatever the last fetch fails with is what the poll answers.

The Fermioniq backend renews the token by one login, and the second GET carries the token that this
login was granted.  If others renew the token as well, their refreshes may share a login and further
logins may follow: whoever called for a refresh and was answered with a token finds in the headers,
as long as the session is not taken into use anew, the token of the latest login that succeeded,
which was completed after that call. -/
theorem sent_by_poll {τ : Type} (net : Network τ) (now : Instant) (h : Handle) :
    (∀ {σ : Type} (b : Backend σ) (line : Line σ τ),
      h.outcome = none → b.name line.state = h.backend →
        ∃ logs, b.PolledBy net now h line logs ∧
          (b.poll h).exchanges net now line = logs.flatMap FetchLog.exchanges ∧
          ∀ last fault, logs.getLast? = some last → last.answer = .error fault →
            ((b.poll h).run net now line).1 = (.error fault, h)) ∧
    (∀ (path : String) (line line' : Line Fermioniq.Session τ) (get again : Exchange)
      (refresh : List Exchange),
        Fermioniq.backend.FetchedBy net now path line (.repeated get refresh again) line' →
          ∃ a answer text user, line.state.settings = some a ∧
            refresh = [⟨a.loginRequest, answer⟩] ∧
            Fermioniq.Session.Grants answer text user ∧
            Fermioniq.Session.Bears again.request.headers text) ∧
    (∀ (caller : Nat) (t : Token) (e : TokenCache.Event)
      (before late : Past TokenCache.Event TokenCache.Reply) (g : Gate),
      Run (Steps Gate.step) (Gate.idle .empty) (late ++ (e, some ⟨caller, .ok t⟩) :: before) g →
        (∀ x ∈ late, x.1 ≠ .clear ∧ x.1 ≠ .arrive caller) →
          ∃ latest, StandsSince caller latest (late ++ (e, some ⟨caller, .ok t⟩) :: before) ∧
            ∀ (s : Fermioniq.Session) (a : Fermioniq.Settings), s.settings = some a →
              s.tokens = g.cache → latest.text ≠ "" →
                Fermioniq.Session.Bears s.headers latest.text) := by
  refine ⟨?_, ?_, ?_⟩
  · intro σ b line pending own
    obtain ⟨logs, polled, sent, failing⟩ := polledBy_check b net now h line
    refine ⟨logs, polled, (exchanges_poll_of_pending pending own).trans sent, ?_⟩
    intro last fault isLast failed
    rw [run_poll_of_pending pending own, failing last fault isLast failed]
    rw [Handle.settle_of_outcome?_none rfl]
    rfl
  · intro path line line' get again refresh fetched
    cases fetched with
    | repeated got unauthorized refreshed again =>
        subst got
        exact Fermioniq.Session.bears_of_refreshed refreshed
  · intro caller t e before late g run kept
    obtain ⟨latest, since, current⟩ := TokenCache.current_after_answer run kept
    refine ⟨latest, since, ?_⟩
    intro s a settings tokens notEmpty
    exact Fermioniq.Session.bears_of_current settings (tokens ▸ current) notEmpty

/-- A network that rejects the first token, grants another one, and then says that the job runs. -/
def expiringNetwork : Network Nat where
  answer _ sent :=
    (match sent with
      | 0 => .error (.transport (some 401) "expired")
      | 1 => .ok (.obj [("jwt_token", .str "second"), ("user_id", .str "u")])
      | _ => .ok (.obj [("status", .str "running")]),
     sent + 1)

/-- The line of a session whose token has expired. -/
def expiredLine : Line Fermioniq.Session Nat := ⟨Fermioniq.loggedIn, 0, []⟩

/-- Two callers renew the token together; the second one is about to share the login. -/
def renewedTogether : Past TokenCache.Event TokenCache.Reply :=
  [(.complete 0 (.ok ⟨"second", some "u", ⟨0, 0, 0⟩⟩),
      some ⟨0, .ok ⟨"second", some "u", ⟨0, 0, 0⟩⟩⟩),
    (.enter 0, none), (.join 1, none), (.join 0, none), (.arrive 1, none), (.arrive 0, none)]

/-- A third caller has then renewed it once more. -/
def renewedOnceMore : Past TokenCache.Event TokenCache.Reply :=
  [(.complete 2 (.ok ⟨"third", some "u", ⟨0, 1, 0⟩⟩),
      some ⟨2, .ok ⟨"third", some "u", ⟨0, 1, 0⟩⟩⟩),
    (.enter 2, none), (.join 2, none), (.arrive 2, none)]

/-- The session of `expiredLine` after that. -/
def renewedSession : Fermioniq.Session :=
  { Fermioniq.loggedIn with tokens := ⟨some ⟨"third", some "u", ⟨0, 1, 0⟩⟩, none, 2, 2⟩ }

/-- A poll with an expired token sends the status GET again, with the token of the login between.
Had another caller renewed the token in its place, and a third one since, it would carry that one's
token. -/
theorem sent_by_poll_expiredLine :
    Fermioniq.acceptedJob.outcome = none ∧
      Fermioniq.backend.name expiredLine.state = Fermioniq.acceptedJob.backend ∧
      (∃ logs, Fermioniq.backend.PolledBy expiringNetwork ⟨0, 0, 0⟩ Fermioniq.acceptedJob
          expiredLine logs ∧
        (Fermioniq.backend.poll Fermioniq.acceptedJob).exchanges expiringNetwork ⟨0, 0, 0⟩
          expiredLine = logs.flatMap FetchLog.exchanges ∧
        ∀ last fault, logs.getLast? = some last → last.answer = .error fault →
          ((Fermioniq.backend.poll Fermioniq.acceptedJob).run expiringNetwork ⟨0, 0, 0⟩
            expiredLine).1 = (.error fault, Fermioniq.acceptedJob)) ∧
      (∃ get refresh again line', Fermioniq.backend.FetchedBy expiringNetwork ⟨0, 0, 0⟩
          Fermioniq.acceptedJob.statusPath expiredLine (.repeated get refresh again) line' ∧
        ∃ a answer text user, expiredLine.state.settings = some a ∧
          refresh = [⟨a.loginRequest, answer⟩] ∧
          Fermioniq.Session.Grants answer text user ∧
          Fermioniq.Session.Bears again.request.headers text) ∧
      StandsSince 1 ⟨"third", some "u", ⟨0, 1, 0⟩⟩
        (renewedOnceMore ++
          (.enter 1, some ⟨1, .ok ⟨"second", some "u", ⟨0, 0, 0⟩⟩⟩) :: renewedTogether) ∧
      Fermioniq.Session.Bears renewedSession.headers "third" := by
  have fetched : Fermioniq.backend.FetchedBy expiringNetwork ⟨0, 0, 0⟩
      Fermioniq.acceptedJob.statusPath expiredLine (.repeated _ _ _) _ :=
    .repeated rfl rfl rfl rfl
  have run : Run (Steps Gate.step) (Gate.idle .empty)
      (renewedOnceMore ++
        (.enter 1, some ⟨1, .ok ⟨"second", some "u", ⟨0, 0, 0⟩⟩⟩) :: renewedTogether)
      (Gate.idle renewedSession.tokens) := by
    refine Run.of_replay [.arrive 0, .arrive 1, .join 0, .join 1, .enter 0,
      .complete 0 (.ok ⟨"second", some "u", ⟨0, 0, 0⟩⟩), .enter 1, .arrive 2, .join 2, .enter 2,
      .complete 2 (.ok ⟨"third", some "u", ⟨0, 1, 0⟩⟩)] .start ?_
    rfl
  have kept : ∀ x ∈ renewedOnceMore, x.1 ≠ .clear ∧ x.1 ≠ .arrive 1 := by
    intro x here
    simp only [renewedOnceMore, List.mem_cons, List.not_mem_nil, or_false] at here
    rcases here with rfl | rfl | rfl | rfl <;> simp
  obtain ⟨sent, renewed, shared⟩ := sent_by_poll expiringNetwork ⟨0, 0, 0⟩ Fermioniq.acceptedJob
  obtain ⟨latest, since, bears⟩ := shared 1 _ _ _ _ _ run kept
  have third : latest = ⟨"third", some "u", ⟨0, 1, 0⟩⟩ := by
    cases since with
    | granted _ => rfl
    | later other => cases other
  subst third
  exact ⟨rfl, rfl, sent Fermioniq.backend expiredLine rfl rfl,
    ⟨_, _, _, _, fetched, renewed _ _ _ _ _ _ fetched⟩, since,
    bears renewedSession _ rfl rfl (by decide)⟩

theorem exchanges_ne_nil (log : FetchLog) : log.exchanges ≠ [] := by
  cases log <;> simp [FetchLog.exchanges]

/-- A session of another backend sends nothing for a pending job, not even one GET. -/
theorem nothing_sent_by_other :
    pendingJob.outcome = none ∧
      ∀ logs, Plain.backend.PolledBy nullNetwork ⟨0, 0, 0⟩ pendingJob
          ⟨Plain.Session.fresh "other", (), []⟩ logs →
        (Plain.backend.poll pendingJob).exchanges nullNetwork ⟨0, 0, 0⟩
          ⟨Plain.Session.fresh "other", (), []⟩ ≠ logs.flatMap FetchLog.exchanges := by
  refine ⟨rfl, ?_⟩
  intro logs polled same
  rw [exchanges_poll_of_foreign rfl (by decide)] at same
  have none : ∀ log ∈ logs, log.exchanges = [] := List.flatMap_eq_nil_iff.1 same.symm
  cases polled with
  | status => exact exchanges_ne_nil _ (none _ (List.mem_cons_self ..))
  | results => exact exchanges_ne_nil _ (none _ (List.mem_cons_self ..))

end Backend
end QuantumJobs
