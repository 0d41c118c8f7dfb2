import QuantumJobs.Desk
import QuantumJobs.Proofs.CounterClock

/-!
# PollsInLine — what a poll spends its time on

Calls on a handle stand in line and leave it from the front.  A poll itself never rests, but a wait
keeps its place at the front while it rests, and whoever has joined the line behind it stays there
until it leaves.  So the time of a poll goes by in its own check, in the checks of those that were
in line before it, and in the rests of the waits among them.
-/

namespace QuantumJobs

variable {σ τ : Type}

namespace Counter

variable {c c' : Counter} {e : Counter.Event} {reply : Option (Nat × Reply)}
  {past : Past Counter.Event (Nat × Reply)}

/-! ## The line -/

/-- The call that is served and those in the queue. -/
def line (c : Counter) : List (Nat × Demand) :=
  (c.service.map fun s => (s.call, s.demand)).toList ++ c.queue

/-- A call that is queued or served. -/
inductive Standing.InLine (demand : Demand) : Standing → Prop where
  | queued : InLine demand (.queued demand)
  | resting : InLine demand (.resting demand)
  | checking : InLine demand (.checking demand)

theorem mem_line {w : Nat × Demand} :
    w ∈ c.line ↔ (∃ work, c.service = some ⟨w.1, w.2, work⟩) ∨ w ∈ c.queue := by
  unfold line
  rw [List.mem_append]
  refine or_congr ?_ Iff.rfl
  cases c.service with
  | none => simp
  | some s =>
      obtain ⟨call, demand, work⟩ := s
      simp [Prod.ext_iff, eq_comm]

/-- Whoever is in the counter's line stands there. -/
theorem Agrees.inLine (agrees : c.Agrees past) {call : Nat} {demand : Demand}
    (here : (call, demand) ∈ c.line) : (standing call past).InLine demand := by
  rcases mem_line.1 here with ⟨work, busy⟩ | queued
  · cases work with
    | resting =>
        rw [agrees.stands call (.resting demand) busy]
        exact .resting
    | checking =>
        rw [agrees.stands call (.checking demand) busy]
        exact .checking
  · rw [agrees.stands call (.queued demand) queued]
    exact .queued

/-- Whoever is not away is where it stands. -/
theorem Agrees.has (agrees : c.Agrees past) {call : Nat} {s : Standing}
    (stands : standing call past = s) (here : s ≠ .away) : c.Has call s := by
  by_contra nowhere
  have gone : standing call past = .away := by
    apply agrees.away call
    intro other has
    rw [← agrees.stands call other has, stands] at has
    exact nowhere has
  exact here (stands.symm.trans gone)

theorem line_without (c : Counter) (call : Nat) : (c.without call).line.Sublist c.line := by
  refine List.Sublist.append ?_ List.filter_sublist
  cases busy : c.service with
  | none => simp [without, busy]
  | some s =>
      by_cases own : s.call = call
      · simp [without, busy, own]
      · simp [without, busy, own]

/-- The line loses calls, or one joins it at its end. -/
theorem Moves.line (move : c.Moves e reply c') :
    c'.line.Sublist c.line ∨
      ∃ call demand, e = .join call ∧ reply = none ∧ (call, demand) ∈ c.coming ∧
        c'.line = c.line ++ [(call, demand)] := by
  cases move with
  | greets _ _ => exact .inl (.refl _)
  | arrives _ _ => exact .inl (.refl _)
  | @joins call demand found =>
      exact .inr ⟨call, demand, rfl, rfl, found, by simp [Counter.line]⟩
  | dismisses free first _ =>
      left
      simp [Counter.line, free, first]
  | serves free first _ =>
      left
      simp [Counter.line, free, first]
  | wakes busy =>
      left
      simp [Counter.line, busy]
  | ends busy _ =>
      left
      simp [Counter.line]
  | turns busy _ _ =>
      left
      simp [Counter.line]
  | rests busy _ _ =>
      left
      simp [Counter.line, busy]
  | drops => exact .inl (line_without c _)
  | expires _ => exact .inl (line_without c _)

/-! ## Who is ahead of whom -/

/-- `a` was in line, wanting `demand`, when `b` joined, and neither has left since. -/
inductive Ahead (a : Nat) (demand : Demand) (b : Nat) : Past Event (Nat × Reply) → Prop where
  | joins {before : Past Event (Nat × Reply)} :
      (standing a before).InLine demand → (∀ other, ¬ (standing b before).InLine other) →
        Ahead a demand b ((.join b, none) :: before)
  | stays {e : Event} {reply : Option (Nat × Reply)} {before : Past Event (Nat × Reply)}
      {other : Demand} :
      Ahead a demand b before → (standing a ((e, reply) :: before)).InLine demand →
        (standing b ((e, reply) :: before)).InLine other → Ahead a demand b ((e, reply) :: before)

theorem Ahead.inLine {a b : Nat} {demand : Demand} (ahead : Ahead a demand b past) :
    (standing a past).InLine demand := by
  cases ahead with
  | joins first late =>
      have ne : b ≠ a := by
        rintro rfl
        exact late demand first
      simpa [standing, Event.call, ne] using first
  | stays _ first _ => exact first

theorem Ahead.asymm {a b : Nat} {demand other : Demand} (ahead : Ahead a demand b past) :
    ¬ Ahead b other a past := by
  induction ahead with
  | joins first late =>
      -- `b` joins now, so before this it was ahead of nobody.
      intro behind
      cases behind with
      | joins _ _ => exact late demand first
      | stays earlier _ _ => exact late other earlier.inLine
  | stays earlier _ _ ih =>
      intro behind
      cases behind with
      | joins _ late => exact late demand earlier.inLine
      | stays behind _ _ => exact ih behind

/-- Everybody in the line is ahead of those behind it. -/
def Ordered (c : Counter) (past : Past Event (Nat × Reply)) : Prop :=
  c.line.Pairwise fun x y => Ahead x.1 x.2 y.1 past

theorem Ordered.step (ordered : c.Ordered past) (agrees : c.Agrees past)
    (move : c.Moves e reply c') : c'.Ordered ((e, reply) :: past) := by
  have after := agrees.step move
  -- Whoever is in the new line and was in order before is in order still.
  have kept : ∀ {x y : Nat × Demand}, x ∈ c'.line → y ∈ c'.line → Ahead x.1 x.2 y.1 past →
      Ahead x.1 x.2 y.1 ((e, reply) :: past) := by
    intro x y first second ahead
    exact .stays ahead (after.inLine first) (after.inLine second)
  rcases move.line with shorter | ⟨call, demand, rfl, rfl, coming, longer⟩
  · exact (List.Pairwise.sublist shorter ordered).imp_of_mem kept
  · unfold Ordered
    rw [longer, List.pairwise_append]
    refine ⟨?_, List.pairwise_singleton _ _, ?_⟩
    · apply List.Pairwise.imp_of_mem ?_ ordered
      intro x y first second
      apply kept
      · rw [longer]
        exact List.mem_append_left _ first
      · rw [longer]
        exact List.mem_append_left _ second
    · intro x first y last
      cases List.mem_singleton.1 last
      refine .joins (agrees.inLine first) ?_
      rw [agrees.stands call (.coming demand) coming]
      intro other here
      cases here

theorem ordered_of_run {h : Handle} (run : Run (Steps step) (opened h) past c) :
    c.Agrees past ∧ c.Ordered past := by
  induction run with
  | start => exact ⟨agrees_opened h, List.Pairwise.nil⟩
  | step _ move ih =>
      obtain ⟨agrees, ordered⟩ := ih
      have move := moves_of_step move
      exact ⟨agrees.step move, ordered.step agrees move⟩

/-- The first in the line is behind nobody. -/
theorem Ordered.first (ordered : c.Ordered past) (agrees : c.Agrees past) {call : Nat}
    {demand : Demand} {rest : List (Nat × Demand)} (first : c.line = (call, demand) :: rest)
    (a : Nat) (other : Demand) : ¬ Ahead a other call past := by
  intro ahead
  have inLine : (a, other) ∈ c.line := by
    rw [mem_line]
    have stands := ahead.inLine
    generalize at_ : standing a past = s at stands
    cases stands with
    | queued => exact .inr (agrees.has at_ (by simp))
    | resting => exact .inl ⟨_, agrees.has at_ (by simp)⟩
    | checking => exact .inl ⟨_, agrees.has at_ (by simp)⟩
  unfold Ordered at ordered
  rw [first] at inLine ordered
  -- So `a` is the call itself or one of those whom the call is ahead of.
  rcases List.mem_cons.1 inLine with same | behind
  · cases same
    exact ahead.asymm ahead
  · exact ahead.asymm (List.rel_of_pairwise_cons ordered behind)

/-- Whoever is answered in the line, and is not late, is the first in it. -/
theorem Moves.first_of_answer (move : c.Moves e reply c') (agrees : c.Agrees past) {call : Nat}
    {answer : Reply} (told : reply = some (call, answer))
    (waits : (standing call past).demand? = some .poll) :
    ∃ demand rest, c.line = (call, demand) :: rest := by
  cases move with
  | greets absent _ =>
      cases told
      have gone := agrees.away _ (not_has_of_absent absent)
      rw [gone] at waits
      cases waits
  | arrives _ _ => cases told
  | joins _ => cases told
  | @dismisses call demand rest _ free first _ =>
      cases told
      exact ⟨demand, rest, by simp [Counter.line, free, first]⟩
  | serves _ _ _ => cases told
  | wakes _ => cases told
  | @ends call demand _ _ busy _ =>
      cases told
      exact ⟨demand, c.queue, by simp [Counter.line, busy]⟩
  | @turns call demand _ _ busy _ _ =>
      cases told
      exact ⟨demand, c.queue, by simp [Counter.line, busy]⟩
  | rests _ _ _ => cases told
  | drops => cases told
  | expires timed =>
      -- Only a wait with a deadline is ever late.
      cases told
      rcases has_of_demandOf? timed with has | has | has
      all_goals
        rw [agrees.stands _ _ has] at waits
        cases waits

/-- The call that is served rests only if it waits. -/
def OnlyWaitsRest (c : Counter) : Prop :=
  ∀ call demand, c.service = some ⟨call, demand, .resting⟩ → demand ≠ .poll

theorem OnlyWaitsRest.step (only : c.OnlyWaitsRest) (move : c.Moves e reply c') :
    c'.OnlyWaitsRest := by
  intro call demand rests
  cases move with
  | greets _ _ => exact only call demand rests
  | arrives _ _ => exact only call demand rests
  | joins _ => exact only call demand rests
  | dismisses _ _ _ => exact only call demand rests
  | serves _ _ _ =>
      rintro rfl
      cases rests
  | wakes _ => cases rests
  | ends _ _ => cases rests
  | turns _ _ _ => cases rests
  | rests _ goesOn _ =>
      cases rests
      rintro rfl
      cases goesOn
  | drops => exact only call demand (Option.filter_eq_some_iff.1 rests).1
  | expires _ => exact only call demand (Option.filter_eq_some_iff.1 rests).1

theorem onlyWaitsRest_of_run {h : Handle} (run : Run (Steps step) (opened h) past c) :
    c.OnlyWaitsRest := by
  induction run with
  | start =>
      intro call demand rests
      cases rests
  | step _ move ih => exact ih.step (moves_of_step move)

namespace Clocked

/-! ## What time passes with -/

/-- Time passes in a check of the poll itself or of a call ahead of it, or in the rest of a wait
ahead of it. -/
inductive SpentOn (call : Nat) (past : Past Counter.Event (Nat × Reply)) : Prop where
  | ownCheck {demand : Demand} : standing call past = .checking demand → SpentOn call past
  | check {other : Nat} {demand : Demand} :
      standing other past = .checking demand → Ahead other demand call past → SpentOn call past
  | rest {other : Nat} {demand : Demand} : demand ≠ .poll →
      standing other past = .resting demand → Ahead other demand call past → SpentOn call past

variable {s s' : Clocked σ} {h : Handle} {start : Span} {past : History σ}

theorem spentOn_of_idle (run : Run Moves (opened h start) past s) {length : Span}
    (idle : s.Idle length) {call : Nat}
    (waits : (standing call (turns past)).demand? = some .poll) : SpentOn call (turns past) := by
  obtain ⟨agrees, ordered⟩ := ordered_of_run (turns_run run)
  cases stands : standing call (turns past) with
  | away =>
      rw [stands] at waits
      cases waits
  | coming demand =>
      -- Time stands still until whoever comes has joined the line.
      have coming : (call, demand) ∈ s.live.counter.coming := agrees.has stands (by simp)
      cases idle with
      | rest none _ _ => simp [none] at coming
      | answer none _ => simp [none] at coming
      | nobody none _ _ => simp [none] at coming
  | queued demand =>
      have queued : (call, demand) ∈ s.live.counter.queue := agrees.has stands (by simp)
      -- Whoever is served is ahead of the queue.
      have behind : ∀ {other : Nat} {wanted : Demand} {work : Work},
          s.live.counter.service = some ⟨other, wanted, work⟩ →
            Ahead other wanted call (turns past) := by
        intro other wanted work busy
        have order := ordered
        simp only [Ordered, line, busy] at order
        exact List.rel_of_pairwise_cons order queued
      cases idle with
      | @rest other wanted _ busy _ =>
          have waiting := onlyWaitsRest_of_run (turns_run run) other wanted busy
          exact .rest waiting (agrees.stands other (.resting wanted) busy) (behind busy)
      | answer _ inFlight =>
          obtain ⟨d, underWay, _⟩ := Option.bind_eq_some_iff.1 inFlight
          obtain ⟨other, wanted, busy⟩ := Live.inCheck_iff.1 ((agrees_of_run run).served d underWay)
          exact .check (agrees.stands other (.checking wanted) busy) (behind busy)
      | nobody _ _ none => simp [none] at queued
  | resting demand =>
      have busy : s.live.counter.service = _ := agrees.has stands (by simp)
      rw [stands] at waits
      cases waits
      exact absurd rfl (onlyWaitsRest_of_run (turns_run run) call .poll busy)
  | checking demand => exact .ownCheck stands

/-- In every run, while a poll is at the counter, time passes only in its own check, in a check of a
call that was in line when it joined, or in a rest of a wait that was; and it is not answered before
all of these have left. -/
theorem polls_wait_for_those_ahead (run : Run Moves (opened h start) past s) (call : Nat) :
    (∀ length reply before, (.pass length, reply) :: before <:+ past →
        (standing call (turns before)).demand? = some .poll → SpentOn call (turns before)) ∧
      ∀ e answer before, (.act (.turn e), some (call, answer)) :: before <:+ past →
        (standing call (turns before)).demand? = some .poll →
          ∀ other demand, ¬ Ahead other demand call (turns before) := by
  constructor
  · intro length reply before older waits
    obtain ⟨_, first⟩ := run.at_suffix older
    cases first with
    | step soFar move =>
        cases move with
        | passes idle => exact spentOn_of_idle soFar idle waits
  · intro e answer before older waits other demand
    obtain ⟨_, first⟩ := run.at_suffix older
    cases first with
    | step soFar move =>
        obtain ⟨agrees, ordered⟩ := ordered_of_run (turns_run soFar)
        cases move with
        | acts move _ =>
            cases move with
            | turns _ _ move =>
                obtain ⟨wanted, rest, inFront⟩ :=
                  (moves_of_step move).first_of_answer agrees rfl waits
                exact ordered.first agrees inFront other demand

/-- The pending job at the start of the clock. -/
def pendingAt (service : Option Service) (queue coming : List (Nat × Demand)) (till : Span) :
    Clocked Plain.Session :=
  ⟨⟨⟨Backend.pendingJob, service, queue, coming⟩, none⟩, .zero, till⟩

/-- A wait rests, and a poll has joined the line behind it. -/
def restBeforePoll : Clocked Plain.Session :=
  pendingAt (some ⟨0, .wait, .resting⟩) [(1, .poll)] [] minInterval

theorem restBeforePoll_reached :
    Run Moves (opened Backend.pendingJob .zero)
      [(.act (.turn (.join 1)), none), (.act (.turn (.arrive 1 .poll "plain")), none),
        (.act (.turn (.serve 0)), none), (.act (.turn (.join 0)), none),
        (.act (.turn (.arrive 0 .wait "plain")), none)] restBeforePoll := by
  let b := Plain.backend
  have comes : Moves (opened Backend.pendingJob .zero) (.act (.turn (.arrive 0 .wait "plain"))) none
      (pendingAt none [] [(0, .wait)] .zero) :=
    moves_of_turn b rfl nofun nofun rfl rfl
  have joins : Moves (pendingAt none [] [(0, .wait)] .zero) (.act (.turn (.join 0))) none
      (pendingAt none [(0, .wait)] [] .zero) :=
    moves_of_turn b rfl nofun nofun rfl rfl
  have served : Moves (pendingAt none [(0, .wait)] [] .zero) (.act (.turn (.serve 0))) none
      (pendingAt (some ⟨0, .wait, .resting⟩) [] [] minInterval) :=
    moves_of_turn b rfl nofun nofun rfl (by decide)
  have polls : Moves (pendingAt (some ⟨0, .wait, .resting⟩) [] [] minInterval)
      (.act (.turn (.arrive 1 .poll "plain"))) none
      (pendingAt (some ⟨0, .wait, .resting⟩) [] [(1, .poll)] minInterval) :=
    moves_of_turn b rfl nofun nofun rfl rfl
  have behind : Moves (pendingAt (some ⟨0, .wait, .resting⟩) [] [(1, .poll)] minInterval)
      (.act (.turn (.join 1))) none restBeforePoll :=
    moves_of_turn b rfl nofun nofun rfl rfl
  exact .step (.step (.step (.step (.step .start comes) joins) served) polls) behind

/-- The poll waits for the end of the rest, which is ahead of it. -/
theorem restBeforePoll_passes :
    ∃ (past : History Plain.Session) (s : Clocked Plain.Session),
      Run Moves (opened Backend.pendingJob .zero) past s ∧
        past.head? = some (.pass minInterval, none) ∧
        (standing 1 (turns past)).demand? = some .poll ∧ SpentOn 1 (turns past) := by
  have run := Run.step restBeforePoll_reached
    (.passes (.rest rfl rfl (Nat.le_refl _)) : restBeforePoll.Moves (.pass minInterval) none _)
  have spent := (polls_wait_for_those_ahead run 1).1 minInterval none _ (List.suffix_refl _) rfl
  exact ⟨_, _, run, rfl, rfl, spent⟩

end Clocked
end Counter

namespace Desk

/-- The moments at which the calls have been answered. -/
def endings (d : Desk σ τ) : List Span :=
  d.calls.filterMap fun call =>
    match call.stage with
    | .ended time _ => some time
    | _ => none

/-- A wait and a poll arrive together, and no request takes any time.  Yet the poll is answered only
when the rest of the wait is over. -/
theorem poll_lasts_as_long_as_rest :
    (serveAll Backend.nullNetwork ⟨0, 0, 0⟩ 10
      (Dict.ofList [("job", Backend.pendingJob)]) ⟨Plain.Session.fresh "plain", (), []⟩
      [(Plain.backend, "job", .wait), (Plain.backend, "job", .poll)]).endings
        = [minInterval, minInterval] := by
  decide +kernel

end Desk
end QuantumJobs
