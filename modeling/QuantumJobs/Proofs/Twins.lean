import Mathlib.Data.List.Forall2
import QuantumJobs.Proofs.JobPlan

/-!
# Twins — two runs that differ in what must not show

Two runs of a client may differ in their secrets: in their configurations and states, in some of the
requests and in the answers to those.  A kinship says how much they may differ.  Two dialogues are
twins if they take the same steps as long as their states and answers are of one kind; run against
answers of one kind they come to related values.  A backend is discreet if what it tells of itself
and of messages is the same for all states of one kind.  Whatever a client does with a discreet
backend is its own twin, and plans of one kind give the same handles.
-/

namespace QuantumJobs

/-- How two runs may differ. -/
structure Kinship (σ : Type) where
  states : σ → σ → Prop
  requests : Request → Request → Prop
  /-- How the answers to a request may differ. -/
  answers : Request → Outcome Json → Outcome Json → Prop
  /-- How the configurations that are taken into use may differ. -/
  configs : Config → Config → Prop

variable {σ α β : Type} {K : Kinship σ}

/-! ## Dialogues -/

namespace Dialogue

/-- Two dialogues that take the same steps and come to values that are related. -/
inductive Twins (K : Kinship σ) (A : α → α → Prop) : Dialogue σ α → Dialogue σ α → Prop where
  | done {a b : α} : A a b → Twins K A (.done a) (.done b)
  | change {f g : σ → σ} {d e : σ → Dialogue σ α} :
      (∀ s t, K.states s t → K.states (f s) (g t)) →
        (∀ s t, K.states s t → Twins K A (d s) (e t)) →
          Twins K A (.change f d) (.change g e)
  | clock {d e : Instant → Dialogue σ α} :
      (∀ time, Twins K A (d time) (e time)) → Twins K A (.clock d) (.clock e)
  | send {r q : Request} {d e : Outcome Json → Dialogue σ α} :
      K.requests r q → (∀ a b, K.answers r a b → Twins K A (d a) (e b)) →
        Twins K A (.send r d) (.send q e)

namespace Twins

variable {A : α → α → Prop} {B : β → β → Prop}

theorem bind {d e : Dialogue σ α} {k l : α → Dialogue σ β} (first : Twins K A d e)
    (next : ∀ a b, A a b → Twins K B (k a) (l b)) : Twins K B (d >>= k) (e >>= l) := by
  show Twins K B (d.bind k) (e.bind l)
  induction first with
  | done related => exact next _ _ related
  | change kept _ ih => exact .change kept ih
  | clock _ ih => exact .clock ih
  | send kin _ ih => exact .send kin ih

theorem state : Twins K K.states (Dialogue.state (σ := σ)) Dialogue.state :=
  .change (fun _ _ kin => kin) fun _ _ kin => .done kin

end Twins
end Dialogue

/-! ## Runs -/

/-- A network that gives answers one after another, whatever it is asked.  Every run is one against
such a network: against the answers that it got. -/
def Network.inOrder (answers : Nat → Outcome Json) : Network Nat where
  answer _ given := (answers given, given + 1)

/-- Two runs that sent requests of one kind were answered alike; `sent` are those of the first. -/
def Kinship.Answered (K : Kinship σ) (sent : List Request) (mine yours : Nat → Outcome Json) :
    Prop :=
  ∀ i r, sent[i]? = some r → K.answers r (mine i) (yours i)

namespace Kinship.Answered

variable {mine yours : Nat → Outcome Json} {earlier sent : List Request}

theorem of_prefix (answered : K.Answered sent mine yours) (before : earlier <+: sent) :
    K.Answered earlier mine yours := by
  intro i r here
  obtain ⟨later, rfl⟩ := before
  refine answered i r ?_
  rw [List.getElem?_append_left (List.getElem?_eq_some_iff.1 here).1, here]

theorem last {r : Request} (answered : K.Answered sent mine yours)
    (before : earlier ++ [r] <+: sent) :
    K.answers r (mine earlier.length) (yours earlier.length) := by
  refine answered.of_prefix before earlier.length r ?_
  rw [List.getElem?_append_right (Nat.le_refl _), Nat.sub_self]
  rfl

end Kinship.Answered

/-- Two runs stand at related places. -/
structure Line.Twins (K : Kinship σ) (line other : Line σ Nat) : Prop where
  state : K.states line.state other.state
  sent : List.Forall₂ K.requests line.sent other.sent
  mine : line.wire = line.sent.length
  yours : other.wire = other.sent.length

variable {mine yours : Nat → Outcome Json}

/-- Twin dialogues that are answered alike come to related values and to related places. -/
theorem Dialogue.Twins.run {A : α → α → Prop} {d e : Dialogue σ α} (twins : Twins K A d e)
    {time : Instant} {line line' last last' : Line σ Nat} {a b : α} (lines : line.Twins K line')
    (ran : d.run (.inOrder mine) time line = (a, last))
    (ran' : e.run (.inOrder yours) time line' = (b, last'))
    (answered : K.Answered last.sent mine yours) : A a b ∧ last.Twins K last' := by
  induction twins generalizing line line' with
  | done related =>
      cases ran
      cases ran'
      exact ⟨related, lines⟩
  | @change f g _ _ kept _ ih =>
      have next : Line.Twins K { line with state := f line.state }
          { line' with state := g line'.state } :=
        ⟨kept _ _ lines.state, lines.sent, lines.mine, lines.yours⟩
      exact ih _ _ lines.state next ran ran'
  | clock _ ih => exact ih time lines ran ran'
  | @send r q d e kin _ ih =>
      obtain ⟨s, given, sent⟩ := line
      obtain ⟨s', given', sent'⟩ := line'
      -- Both runs have sent equally many requests, so they get the answers of one place.
      have place : given = sent.length := lines.mine
      have place' : given' = sent.length := lines.yours.trans lines.sent.length_eq.symm
      subst place place'
      have before := Dialogue.sent_prefix (.inOrder mine) time (d (mine sent.length))
        ⟨s, sent.length + 1, sent ++ [r]⟩
      have answers : K.answers r (mine sent.length) (yours sent.length) := by
        refine answered.last ?_
        rw [← congrArg (fun x => x.2.sent) ran]
        exact before
      have next : Line.Twins K ⟨s, sent.length + 1, sent ++ [r]⟩
          ⟨s', sent.length + 1, sent' ++ [q]⟩ := by
        refine ⟨lines.state, List.rel_append lines.sent (.cons kin .nil), ?_, ?_⟩
        · simp
        · simpa using lines.sent.length_eq
      exact ih _ _ answers next ran ran'

/-! ## Discreet backends -/

namespace Backend

variable {b : Backend σ}

/-- A backend of which nothing shows but what is the same for all states of one kind. -/
structure Discreet (K : Kinship σ) (b : Backend σ) : Prop where
  self : ∀ s, K.states s s
  name : ∀ s t, K.states s t → b.name s = b.name t
  persisted : ∀ s t, K.states s t → b.persisted s = b.persisted t
  jobOf : ∀ s t, K.states s t → b.jobOf s = b.jobOf t
  statusPath : ∀ s t, K.states s t → b.statusPath s = b.statusPath t
  resultsPath : ∀ s t, K.states s t → b.resultsPath s = b.resultsPath t
  isDone : ∀ s t, K.states s t → b.isDone s = b.isDone t
  interval : ∀ s t, K.states s t → b.interval s = b.interval t
  results : ∀ s t m job, K.states s t →
    (b.results m job s).1 = (b.results m job t).1 ∧
      K.states (b.results m job s).2 (b.results m job t).2
  /-- The requests for messages are of one kind, and their answers are the same. -/
  gets : ∀ s t path, K.states s t →
    K.requests (.get (b.baseUrl s) path (b.headers s)) (.get (b.baseUrl t) path (b.headers t)) ∧
      ∀ a c, K.answers (.get (b.baseUrl s) path (b.headers s)) a c → a = c
  /-- Submissions are refused alike, or are of one kind and answered the same. -/
  posts : ∀ s t kernels, K.states s t →
    (∃ fault, b.payload s kernels = .error fault ∧ b.payload t kernels = .error fault) ∨
      ∃ p q, b.payload s kernels = .ok p ∧ b.payload t kernels = .ok q ∧
        K.requests (.post (b.baseUrl s) p.path p.headers p.body)
          (.post (b.baseUrl t) q.path q.headers q.body) ∧
        ∀ a c, K.answers (.post (b.baseUrl s) p.path p.headers p.body) a c → a = c
  refresh : Dialogue.Twins K Eq b.refresh b.refresh
  /-- A configuration is refused, or it is taken into use as all of its kind are. -/
  connect : ∀ env env' c c', K.configs c c' →
    (∃ fault, b.connect env c = .done (.error fault)) ∨
      (∃ fault, b.connect env' c' = .done (.error fault)) ∨
        Dialogue.Twins K Eq (b.connect env c) (b.connect env' c')
  overlay : ∀ (c o o' : Config), K.configs o o' → K.configs (c.merge o) (c.merge o')

namespace Discreet

open Dialogue (Twins)

theorem getOnce (discreet : b.Discreet K) (path : String) :
    Twins K Eq (b.getOnce path) (b.getOnce path) := by
  refine Twins.state.bind ?_
  intro s t kin
  obtain ⟨requests, same⟩ := discreet.gets s t path kin
  exact .send requests fun a c related => .done (same a c related)

theorem fetch (discreet : b.Discreet K) (path : String) :
    Twins K Eq (b.fetch path) (b.fetch path) := by
  refine (discreet.getOnce path).bind ?_
  rintro answer _ rfl
  by_cases unauthorized : isUnauthorized answer = true
  · simp only [unauthorized, if_true]
    refine discreet.refresh.bind ?_
    rintro refreshed _ rfl
    cases refreshed with
    | error fault => exact .done rfl
    | ok _ => exact discreet.getOnce path
  · simp only [unauthorized, if_false, Bool.false_eq_true]
    exact .done rfl

theorem readResults (discreet : b.Discreet K) (h : Handle) (m : Json) :
    Twins K Eq (b.readResults h m) (b.readResults h m) := by
  refine .change (fun s t kin => (discreet.results s t m h.job kin).2) ?_
  intro s t kin
  rw [(discreet.results s t m h.job kin).1]
  cases (b.results m h.job t).1 with
  | ok result => exact .done rfl
  | error fault => exact .done rfl

theorem collect (discreet : b.Discreet K) (h : Handle) (status : Json) :
    Twins K Eq (b.collect h status) (b.collect h status) := by
  refine Twins.state.bind ?_
  intro s t kin
  rw [discreet.resultsPath s t kin]
  cases b.resultsPath t h.job with
  | none => exact discreet.readResults h status
  | some path =>
      refine (discreet.fetch path).bind ?_
      rintro answer _ rfl
      cases answer with
      | error fault => exact .done rfl
      | ok m => exact discreet.readResults h m

theorem check (discreet : b.Discreet K) (h : Handle) : Twins K Eq (b.check h) (b.check h) := by
  refine (discreet.fetch h.statusPath).bind ?_
  rintro answer _ rfl
  cases answer with
  | error fault => exact .done rfl
  | ok status =>
      refine Twins.state.bind ?_
      intro s t kin
      have delay : b.delay s status = b.delay t status := by
        unfold Backend.delay
        rw [discreet.interval s t kin]
      rw [discreet.isDone s t kin, delay]
      rcases b.isDone t status with fault | _ | _
      · exact .done rfl
      · exact .done rfl
      · exact discreet.collect h status

theorem poll (discreet : b.Discreet K) (h : Handle) : Twins K Eq (b.poll h) (b.poll h) := by
  refine Twins.state.bind ?_
  intro s t kin
  rw [discreet.name s t kin]
  cases h.known? (b.name t) with
  | some answer => exact .done rfl
  | none =>
      refine (discreet.check h).bind ?_
      rintro c _ rfl
      exact .done rfl

theorem accept (discreet : b.Discreet K) {s t : σ} (kin : K.states s t) (kernels : List Kernel)
    (response : Json) (now : Instant) :
    b.accept s kernels response now = b.accept t kernels response now := by
  unfold Backend.accept Backend.delay
  rw [discreet.name s t kin, discreet.persisted s t kin, discreet.jobOf s t kin,
    discreet.statusPath s t kin, discreet.interval s t kin]

theorem submit (discreet : b.Discreet K) (kernels : List Kernel) :
    Twins K Eq (b.submit kernels) (b.submit kernels) := by
  unfold Backend.submit
  by_cases empty : kernels.isEmpty = true
  · rw [if_pos empty]
    exact .done rfl
  · rw [if_neg empty]
    refine Twins.state.bind ?_
    intro s t kin
    rcases discreet.posts s t kernels kin with ⟨fault, mine, yours⟩ | ⟨p, q, mine, yours, requests,
      same⟩
    · simp only [mine, yours]
      exact .done rfl
    · simp only [mine, yours]
      refine .send requests ?_
      intro a c related
      obtain rfl := same a c related
      cases a with
      | error fault => exact .done rfl
      | ok response =>
          refine Twins.state.bind ?_
          intro s' t' kin'
          refine .clock ?_
          intro now
          exact .done (discreet.accept kin' kernels response now)

/-! ## Setting up -/

/-- If configurations of one kind are both taken into use, the lines then stand at related places. -/
theorem connectTo (discreet : b.Discreet K) {registry : Registry σ} {env env' : Environment}
    {name : String} {c c' : Config} (configs : K.configs c c') {now : Instant}
    {line line' after after' : Line σ Nat} (lines : line.Twins K line')
    (connected :
      (b.connectTo registry env name c).run (.inOrder mine) now line = (.ok (), after))
    (connected' :
      (b.connectTo registry env' name c').run (.inOrder yours) now line' = (.ok (), after'))
    (answered : K.Answered after.sent mine yours) : after.Twins K after' := by
  unfold Backend.connectTo at connected connected'
  cases created : registry.create name with
  | error fault =>
      rw [created] at connected
      cases connected
  | ok blueprint =>
      rw [created] at connected connected'
      rcases discreet.connect env env' c c' configs with ⟨fault, refused⟩ | ⟨fault, refused⟩ | twins
      · rw [refused] at connected
        cases connected
      · rw [refused] at connected'
        cases connected'
      · -- The blueprint takes the place of whatever has been set up before.
        have fresh : Dialogue.Twins K Eq
            (.change (fun _ => blueprint) fun _ => b.connect env c)
            (.change (fun _ => blueprint) fun _ => b.connect env' c') :=
          .change (fun _ _ _ => discreet.self blueprint) fun _ _ _ => twins
        exact (fresh.run lines connected connected' answered).2

end Discreet
end Backend

/-! ## Waits -/

/-- Two waits of the same length for the same handle, at related places. -/
structure Wait.Twins (K : Kinship σ) (w v : Wait σ Nat) : Prop where
  elapsed : w.elapsed = v.elapsed
  handle : w.handle = v.handle
  line : w.line.Twins K v.line

namespace Wait.Twins

variable {b : Backend σ} {w v w' v' : Wait σ Nat}

theorem round (discreet : b.Discreet K) {now : Instant} {delay : Span} {c d : Check}
    (twins : w.Twins K v) (found : Wait.round b (.inOrder mine) now delay w = (c, w'))
    (found' : Wait.round b (.inOrder yours) now delay v = (d, v'))
    (answered : K.Answered w'.line.sent mine yours) : c = d ∧ w'.Twins K v' := by
  obtain ⟨checked, elapsed, handle⟩ := Wait.round_inv found
  obtain ⟨checked', elapsed', handle'⟩ := Wait.round_inv found'
  rw [← twins.handle] at checked' handle'
  obtain ⟨rfl, lines⟩ := (discreet.check w.handle).run twins.line checked checked' answered
  refine ⟨rfl, ?_, handle.trans handle'.symm, lines⟩
  rw [elapsed, elapsed', twins.elapsed]

theorem loop (discreet : b.Discreet K) (now : Instant) :
    ∀ (rounds : Nat) (delay : Span) {w v : Wait σ Nat}, w.Twins K v →
      K.Answered (Wait.loop b (.inOrder mine) now rounds delay w).2.line.sent mine yours →
        (Wait.loop b (.inOrder mine) now rounds delay w).2.Twins K
          (Wait.loop b (.inOrder yours) now rounds delay v).2 := by
  intro rounds
  induction rounds with
  | zero =>
      intro delay w v twins _
      exact twins
  | succ rounds ih =>
      intro delay w v twins answered
      unfold Wait.loop at answered ⊢
      rcases found : Wait.round b (.inOrder mine) now delay w with ⟨c, w'⟩
      rcases found' : Wait.round b (.inOrder yours) now delay v with ⟨d, v'⟩
      rw [found] at answered
      -- Both make the same check, so both go on or both end.
      cases c with
      | pending due =>
          have soFar := answered.of_prefix (sent_prefix_loop b _ now rounds due w')
          obtain ⟨rfl, next⟩ := twins.round discreet found found' soFar
          exact ih due next answered
      | _ =>
          obtain ⟨rfl, next⟩ := twins.round discreet found found' answered
          exact next

theorem loopUntil (discreet : b.Discreet K) (now : Instant) (deadline : Span) :
    ∀ (rounds : Nat) (delay : Span) {w v : Wait σ Nat}, w.Twins K v →
      K.Answered (Wait.loopUntil b (.inOrder mine) now deadline rounds delay w).2.line.sent
          mine yours →
        (Wait.loopUntil b (.inOrder mine) now deadline rounds delay w).2.Twins K
          (Wait.loopUntil b (.inOrder yours) now deadline rounds delay v).2 := by
  intro rounds
  induction rounds with
  | zero =>
      intro delay w v twins _
      exact ⟨rfl, twins.handle, twins.line⟩
  | succ rounds ih =>
      intro delay w v twins answered
      unfold Wait.loopUntil at answered ⊢
      rw [← twins.elapsed]
      by_cases early : w.elapsed + delay.asRest ≤ deadline
      · simp only [if_pos early] at answered ⊢
        rcases found : Wait.round b (.inOrder mine) now delay w with ⟨c, w'⟩
        rcases found' : Wait.round b (.inOrder yours) now delay v with ⟨d, v'⟩
        rw [found] at answered
        cases c with
        | pending due =>
            have soFar := answered.of_prefix (sent_prefix_loopUntil b _ now deadline rounds due w')
            obtain ⟨rfl, next⟩ := twins.round discreet found found' soFar
            exact ih due next answered
        | _ =>
            obtain ⟨rfl, next⟩ := twins.round discreet found found' answered
            exact next
      · simp only [if_neg early]
        exact ⟨rfl, twins.handle, twins.line⟩

theorem start {line line' : Line σ Nat} (lines : line.Twins K line') (h : Handle) :
    (⟨.zero, h, line⟩ : Wait σ Nat).Twins K ⟨.zero, h, line'⟩ := ⟨rfl, rfl, lines⟩

theorem run (discreet : b.Discreet K) (now : Instant) (rounds : Nat) (h : Handle)
    {line line' : Line σ Nat} (lines : line.Twins K line')
    (answered : K.Answered (Wait.run b (.inOrder mine) now rounds h line).2.line.sent mine yours) :
    (Wait.run b (.inOrder mine) now rounds h line).2.Twins K
      (Wait.run b (.inOrder yours) now rounds h line').2 := by
  unfold Wait.run at answered ⊢
  rw [← discreet.name _ _ lines.state]
  cases known : h.known? (b.name line.state) with
  | some answer => exact start lines h
  | none =>
      rw [known] at answered
      exact loop discreet now rounds h.initialDelay (start lines h) answered

theorem runUntil (discreet : b.Discreet K) (now : Instant) (patience : Span) (h : Handle)
    {line line' : Line σ Nat} (lines : line.Twins K line')
    (answered :
      K.Answered (Wait.runUntil b (.inOrder mine) now patience h line).2.line.sent mine yours) :
    (Wait.runUntil b (.inOrder mine) now patience h line).2.Twins K
      (Wait.runUntil b (.inOrder yours) now patience h line').2 := by
  simp only [Wait.runUntil, discreet.name _ _ lines.state] at answered ⊢
  cases known : h.known? (b.name line'.state) with
  | some answer => exact start lines h
  | none =>
      simp only [known] at answered
      exact loopUntil discreet now patience.wholeMillis (roundsWithin patience.wholeMillis)
        h.initialDelay (start lines h) answered

end Wait.Twins

/-! ## Plans -/

/-- Moves that differ at most in how a backend is set up again. -/
inductive Move.Alike (K : Kinship σ) : Move → Move → Prop where
  | poll : Alike K .poll .poll
  | wait (rounds : Nat) : Alike K (.wait rounds) (.wait rounds)
  | waitUntil (patience : Span) : Alike K (.waitUntil patience) (.waitUntil patience)
  | resume (env env' : Environment) {overrides overrides' : Config} :
      K.configs overrides overrides' → Alike K (.resume env overrides) (.resume env' overrides')

/-- Plans for the same kernels at the same times that differ at most in how the backend is set up. -/
structure Plan.Alike (K : Kinship σ) (p q : Plan) : Prop where
  backend : p.backend = q.backend
  config : K.configs p.config q.config
  kernels : p.kernels = q.kernels
  connectAt : p.connectAt = q.connectAt
  submitAt : p.submitAt = q.submitAt
  moves : List.Forall₂ (fun m n => m.1 = n.1 ∧ m.2.Alike K n.2) p.moves q.moves

namespace Backend.Discreet

variable {b : Backend σ} {registry : Registry σ} {line line' last last' : Line σ Nat}

theorem makeMove (discreet : b.Discreet K) {now : Instant} {m n : Move} {h next next' : Handle}
    (alike : m.Alike K n) (lines : line.Twins K line')
    (made : b.makeMove registry (.inOrder mine) now m h line = .ok (next, last))
    (made' : b.makeMove registry (.inOrder yours) now n h line' = .ok (next', last'))
    (answered : K.Answered last.sent mine yours) : next = next' ∧ last.Twins K last' := by
  cases alike with
  | poll =>
      cases made
      cases made'
      obtain ⟨same, lines⟩ := (discreet.poll h).run lines rfl rfl answered
      exact ⟨congrArg Prod.snd same, lines⟩
  | wait rounds =>
      cases made
      cases made'
      have waits := Wait.Twins.run discreet now rounds h lines answered
      exact ⟨waits.handle, waits.line⟩
  | waitUntil patience =>
      cases made
      cases made'
      have waits := Wait.Twins.runUntil discreet now patience h lines answered
      exact ⟨waits.handle, waits.line⟩
  | @resume env env' overrides overrides' configs =>
      unfold Backend.makeMove at made made'
      rcases resumed : (b.resume registry env h overrides).run (.inOrder mine) now line
        with ⟨_ | _, after⟩
      · simp [resumed] at made
      rcases resumed' : (b.resume registry env' h overrides').run (.inOrder yours) now line'
        with ⟨_ | _, after'⟩
      · simp [resumed'] at made'
      simp only [resumed, resumed', Except.ok.injEq, Prod.mk.injEq] at made made'
      obtain ⟨rfl, rfl⟩ := made
      obtain ⟨rfl, rfl⟩ := made'
      have merged := discreet.overlay h.config overrides overrides' configs
      exact ⟨rfl, discreet.connectTo merged lines resumed resumed' answered⟩

theorem makeMoves (discreet : b.Discreet K) {moves moves' : List (Instant × Move)}
    (alike : List.Forall₂ (fun m n => m.1 = n.1 ∧ m.2.Alike K n.2) moves moves') :
    ∀ {h : Handle} {line line' : Line σ Nat} {handles handles' : List Handle},
      line.Twins K line' →
        b.makeMoves registry (.inOrder mine) moves h line = .ok (handles, last) →
          b.makeMoves registry (.inOrder yours) moves' h line' = .ok (handles', last') →
            K.Answered last.sent mine yours → handles = handles' ∧ last.Twins K last' := by
  induction alike with
  | nil =>
      intro h line line' handles handles' lines made made' _
      cases made
      cases made'
      exact ⟨rfl, lines⟩
  | @cons m n moves moves' first _ ih =>
      intro h line line' handles handles' lines went went' answered
      obtain ⟨now, m⟩ := m
      obtain ⟨now', n⟩ := n
      obtain ⟨time, first⟩ := first
      obtain rfl : now = now' := time
      obtain ⟨next, between, later, made, rest, rfl⟩ := makeMoves_cons went
      obtain ⟨next', between', later', made', rest', rfl⟩ := makeMoves_cons went'
      have soFar := answered.of_prefix (sent_prefix_makeMoves moves rest)
      obtain ⟨rfl, lines⟩ := discreet.makeMove first lines made made' soFar
      obtain ⟨rfl, lines⟩ := ih lines rest rest' answered
      exact ⟨rfl, lines⟩

/-- Plans that differ at most in how the backend is set up, and that set it up whenever they have
to, give the same handles if they are answered alike. -/
theorem carryOut (discreet : b.Discreet K) {p q : Plan} (alike : p.Alike K q) {s : σ}
    {handles handles' : List Handle}
    (went : b.carryOut registry (.inOrder mine) p ⟨s, 0, []⟩ = .ok (handles, last))
    (went' : b.carryOut registry (.inOrder yours) q ⟨s, 0, []⟩ = .ok (handles', last'))
    (answered : K.Answered last.sent mine yours) :
    handles = handles' ∧ last.Twins K last' := by
  have start : Line.Twins K (⟨s, 0, []⟩ : Line σ Nat) ⟨s, 0, []⟩ :=
    ⟨discreet.self s, .nil, rfl, rfl⟩
  unfold Backend.carryOut at went went'
  rw [← alike.backend, ← alike.connectAt, ← alike.kernels, ← alike.submitAt] at went'
  rcases connected : (b.connectTo registry p.env p.backend p.config).run (.inOrder mine)
    p.connectAt ⟨s, 0, []⟩ with ⟨_ | _, line⟩
  · simp [connected] at went
  rcases connected' : (b.connectTo registry q.env p.backend q.config).run (.inOrder yours)
    p.connectAt ⟨s, 0, []⟩ with ⟨_ | _, line'⟩
  · simp [connected'] at went'
  simp only [connected, connected'] at went went'
  have submitting := Dialogue.sent_prefix (.inOrder mine) p.submitAt (b.submit p.kernels) line
  rcases submitted : (b.submit p.kernels).run (.inOrder mine) p.submitAt line with ⟨accepted, after⟩
  rcases submitted' : (b.submit p.kernels).run (.inOrder yours) p.submitAt line'
    with ⟨accepted', after'⟩
  rw [submitted] at went submitting
  rw [submitted'] at went'
  -- What the connection and the submission were answered is among what the plan was answered.
  have twins : after.sent <+: last.sent → accepted = accepted' ∧ after.Twins K after' := by
    intro before
    have lines := discreet.connectTo alike.config start connected connected'
      (answered.of_prefix (submitting.trans before))
    exact (discreet.submit p.kernels).run lines submitted submitted' (answered.of_prefix before)
  cases accepted with
  | error fault =>
      cases went
      obtain ⟨same, lines⟩ := twins (List.prefix_refl _)
      cases same
      cases went'
      exact ⟨rfl, lines⟩
  | ok h =>
      have before := sent_prefix_makeMoves p.moves went
      obtain ⟨same, lines⟩ := twins before
      cases same
      exact discreet.makeMoves alike.moves lines went went' answered

end Backend.Discreet
end QuantumJobs
