import SqlPipeline.Proofs.Run.Phase

/-!
What the coordinator is about to do. It has looked before, and others have moved since; but what it
has seen of the queue and of finished nodes still stands when it acts, and so does the loss of the
database. Only the token may have fired in between.
-/

namespace SqlPipeline.Run

/-- The status of a node that is not going to run, as far as the token has to do with it. -/
def State.Rests (state : State) (status : NodeStatus) : Prop :=
  status = .skipped ∨ status = .cancelled ∧ state.token = true

theorem rests_leftOver (state : State) : state.Rests state.leftOver := by
  unfold State.leftOver
  split
  · rename_i fired
    exact Or.inr ⟨rfl, fired⟩
  · exact Or.inl rfl

theorem State.Rests.quiet {state : State} {status : NodeStatus} (rests : state.Rests status) :
    status = .cancelled ∨ status = .skipped :=
  rests.elim Or.inr fun cancelled => Or.inl cancelled.1

theorem State.Rests.skipped {state : State} {status : NodeStatus} (rests : state.Rests status)
    (silent : state.token = false) : status = .skipped := by
  rcases rests with skipped | ⟨_, fired⟩
  · exact skipped
  · rw [silent] at fired
    cases fired

theorem State.Rests.token {state : State} {status : NodeStatus} (rests : state.Rests status)
    (cancelled : status = .cancelled) : state.token = true := by
  rcases rests with rfl | ⟨_, fired⟩
  · cases cancelled
  · exact fired

theorem leftOver_of_silent {state : State} (silent : state.token = false) :
    state.leftOver = .skipped :=
  (rests_leftOver state).skipped silent

/-- The first node of the queue waits. -/
def State.First (state : State) (node : ExecutionNode) : Prop :=
  ∃ position rest, state.ready = position :: rest ∧
    state.cells[position]? = some ⟨node, .waiting⟩

/-- What an intent rests on. -/
def State.Backs (state : State) : Intent → Prop
  | .dispatch => ∃ node, state.First node ∧ state.fatal = none ∧ state.isBlocked node = false
  | .refuse status =>
      ∃ node, state.First node ∧ state.Rests status ∧
        (state.aborted = true ∨ status = .skipped ∧ state.isBlocked node = true)
  | .giveUp position status =>
      state.isIdle = true ∧ state.setup.isPassed = true ∧ state.Rests status ∧
        ∃ node, state.cells[position]? = some ⟨node, .waiting⟩
  | .giveUpAll status =>
      state.isIdle = true ∧ state.setup.isPassed = false ∧ state.Rests status

/-- The state backs the intent that it has. -/
def Backed (state : State) : Prop := ∀ intent, state.intent = some intent → state.Backs intent

/-! ## Nodes that go on -/

section Going
variable {state next : State} {position : Nat} {node : ExecutionNode} {old progress : Progress}

-- The status under a name is that of a finished node, so nodes that go on do not change it.
theorem statusOf?_of_moving (found : state.cells[position]? = some ⟨node, old⟩)
    (cells : next.cells = (state.setProgress position progress).cells) (before : old.Moving)
    (after : progress.Moving) (name : String) : next.statusOf? name = state.statusOf? name := by
  have hidden : ∀ {progress : Progress}, progress.Moving →
      Cell.report? ⟨node, progress⟩ = none := by
    intro progress moving
    cases progress with
    | finished report => exact absurd rfl (moving.2 report)
    | waiting | dispatched | running | inFlight | ended => rfl
  let shown (cell : Cell) := (cell.node, cell.report?)
  have same : next.cells.map shown = state.cells.map shown := by
    apply List.ext_getElem?
    intro other
    rw [cells, List.getElem?_map, List.getElem?_map, State.getElem?_setProgress]
    by_cases here : position = other
    · subst here
      simp [shown, found, hidden before, hidden after]
    · rw [if_neg here]
  have read : ∀ state : State, state.statusOf? name =
      ((state.cells.map shown).reverse.find? fun entry => entry.1.name.text == name).bind
        fun entry => entry.2.map NodeReport.status := by
    intro state
    rw [← List.map_reverse, List.find?_map, Option.bind_map]
    rfl
  rw [read, read, same]

theorem isBlocked_of_moving (found : state.cells[position]? = some ⟨node, old⟩)
    (cells : next.cells = (state.setProgress position progress).cells) (before : old.Moving)
    (after : progress.Moving) (other : ExecutionNode) :
    next.isBlocked other = state.isBlocked other := by
  simp only [State.isBlocked, statusOf?_of_moving found cells before after]

theorem waiting_of_moving (found : state.cells[position]? = some ⟨node, old⟩)
    (cells : next.cells = (state.setProgress position progress).cells) (before : old.Moving)
    {other : Nat} {second : ExecutionNode}
    (waits : state.cells[other]? = some ⟨second, .waiting⟩) :
    next.cells[other]? = some ⟨second, .waiting⟩ := by
  have different : position ≠ other := by
    rintro rfl
    rw [found, Option.some.injEq, Cell.mk.injEq] at waits
    exact before.1 waits.2
  rw [cells, State.getElem?_setProgress, if_neg different]
  exact waits

theorem not_idle_of_moving (found : state.cells[position]? = some ⟨node, old⟩)
    (moving : old.Moving) : state.isIdle = false := by
  apply eq_false_of_ne_true
  intro idle
  have rests := not_busy_of_isIdle idle (List.mem_of_getElem? found)
  exact ne_true_of_eq_false rests ((isBusy_iff _).mpr moving)

theorem State.Backs.moving {intent : Intent} (backs : state.Backs intent)
    (found : state.cells[position]? = some ⟨node, old⟩)
    (cells : next.cells = (state.setProgress position progress).cells) (before : old.Moving)
    (after : progress.Moving) (ready : next.ready = state.ready) (token : next.token = state.token)
    (fatal : next.fatal = state.fatal) : next.Backs intent := by
  have first : ∀ node, state.First node → next.First node := by
    rintro node ⟨position, rest, queue, waits⟩
    exact ⟨position, rest, ready.trans queue, waiting_of_moving found cells before waits⟩
  have blocked := isBlocked_of_moving found cells before after
  cases intent with
  | dispatch =>
    obtain ⟨node, stands, sound, clear⟩ := backs
    exact ⟨node, first node stands, fatal.trans sound, (blocked node).trans clear⟩
  | refuse status =>
    obtain ⟨node, stands, rests, reason⟩ := backs
    refine ⟨node, first node stands, ?_, ?_⟩
    · rwa [State.Rests, token]
    · rwa [State.aborted, token, fatal, blocked]
  | giveUp | giveUpAll =>
    rw [State.Backs, not_idle_of_moving found before] at backs
    cases backs.1

end Going

-- Where nobody stands in the queue and somebody is under way, the coordinator has nothing in mind.
theorem Backed.free {state : State} (backed : Backed state) (empty : state.ready = [])
    {position : Nat} {node : ExecutionNode} {progress : Progress}
    (found : state.cells[position]? = some ⟨node, progress⟩) (moving : progress.Moving) :
    state.intent = none := by
  have busy := not_idle_of_moving found moving
  cases meant : state.intent with
  | none => rfl
  | some intent =>
    have backs := backed intent meant
    cases intent with
    | dispatch | refuse =>
      obtain ⟨_, ⟨_, _, queue, _⟩, _⟩ := backs
      rw [empty] at queue
      cases queue
    | giveUp | giveUpAll =>
      rw [State.Backs, busy] at backs
      cases backs.1

/-! ## Runs -/

theorem State.Backs.cancel {state : State} {intent : Intent} (backs : state.Backs intent) :
    ({ state with token := true } : State).Backs intent := by
  cases intent with
  | dispatch => exact backs
  | refuse status =>
    obtain ⟨node, first, rests, _⟩ := backs
    exact ⟨node, first, rests.imp id fun cancelled => ⟨cancelled.1, rfl⟩, Or.inl rfl⟩
  | giveUp position status =>
    obtain ⟨idle, passed, rests, waits⟩ := backs
    exact ⟨idle, passed, rests.imp id fun cancelled => ⟨cancelled.1, rfl⟩, waits⟩
  | giveUpAll status =>
    obtain ⟨idle, stopped, rests⟩ := backs
    exact ⟨idle, stopped, rests.imp id fun cancelled => ⟨cancelled.1, rfl⟩⟩

theorem backed_of_trace {graph : ExecutionGraph} {moves : List Move} {state : State}
    (run : Trace graph moves state) : Backed state := by
  induction run with
  | start =>
    intro intent meant
    cases meant
  | @move _ state _ move run moved ih =>
    intro intent meant
    have unmeant : ∀ {after : State}, state.intent = none → after.intent = state.intent →
        after.intent ≠ some intent := by
      intro after free same
      rw [same, free]
      simp
    cases step_of_move? moved with
    | cancelled => exact (ih _ meant).cancel
    | setupHalted current | setupHanded current | setupDone current | setupPassed current
    | setupFailed current | setupLost current =>
      have untouched := untouched_of_trace run (by simp [current, Setup.isOver])
      exact absurd meant (unmeant untouched.intent rfl)
    | dropped free => exact absurd meant (unmeant free rfl)
    | @doomed _ _ node status _ queue found reason =>
      cases meant
      refine ⟨node, ⟨_, _, queue, found⟩, ?_⟩
      rcases reason with ⟨alarm, rfl⟩ | ⟨_, blocked, rfl⟩
      · exact ⟨rests_leftOver state, Or.inl alarm⟩
      · exact ⟨Or.inl rfl, Or.inr ⟨rfl, blocked⟩⟩
    | @admitted _ _ node _ queue found calm clear =>
      cases meant
      refine ⟨node, ⟨_, _, queue, found⟩, ?_, clear⟩
      have sound := (Bool.or_eq_false_iff.mp calm).2
      simpa using sound
    | refused | dispatched => cases meant
    | started found | succeeded found | halted found | handed found =>
      exact (ih _ meant).moving found rfl (by simp [Progress.Moving]) (by simp [Progress.Moving])
        rfl rfl rfl
    | replied found =>
      exact (ih _ meant).moving found rfl (by simp [Progress.Moving]) (moving_judged _ _ _ _ _)
        rfl rfl rfl
    | collected empty found =>
      have free := Backed.free ih empty found (by simp [Progress.Moving])
      exact absurd meant (unmeant free rfl)
    | resolved free idle looked =>
      cases meant
      rcases looked with ⟨passed, _, node, found, rfl⟩ | ⟨stopped, rfl⟩
      · exact ⟨idle, passed, rests_leftOver state, node, found⟩
      · exact ⟨idle, stopped, rests_leftOver state⟩
    | gaveUp kept =>
      rcases kept with ⟨_, rfl⟩ | ⟨before, rfl⟩
      · cases meant
      · have same := before.symm.trans meant
        cases same
        obtain ⟨idle, stopped, rests⟩ := ih _ before
        exact ⟨isIdle_giveUp _ _ idle, stopped, rests⟩
    | closed => exact ih intent meant

section Backed
variable {state : State} {position : Nat} {rest : List Nat} {node : ExecutionNode}
  {status : NodeStatus}

theorem State.First.eq (first : state.First node) {other : ExecutionNode}
    (queue : state.ready = position :: rest)
    (found : state.cells[position]? = some ⟨other, .waiting⟩) : node = other := by
  obtain ⟨_, _, same, stored⟩ := first
  rw [queue] at same
  cases same
  rw [found] at stored
  cases stored
  rfl

theorem Backed.clear (backed : Backed state) (meant : state.intent = some .dispatch)
    (queue : state.ready = position :: rest)
    (found : state.cells[position]? = some ⟨node, .waiting⟩) :
    state.fatal = none ∧ state.isBlocked node = false := by
  obtain ⟨_, first, sound, clear⟩ := backed _ meant
  cases first.eq queue found
  exact ⟨sound, clear⟩

theorem Backed.reason (backed : Backed state) (meant : state.intent = some (.refuse status))
    (queue : state.ready = position :: rest)
    (found : state.cells[position]? = some ⟨node, .waiting⟩) :
    state.Rests status ∧
      (state.aborted = true ∨ status = .skipped ∧ state.isBlocked node = true) := by
  obtain ⟨_, first, rests, reason⟩ := backed _ meant
  cases first.eq queue found
  exact ⟨rests, reason⟩

theorem Backed.idle (backed : Backed state) {later : Option Intent}
    (meant : state.intent = some (.giveUp position status) ∧ later = none ∨
      state.intent = some (.giveUpAll status) ∧ later = state.intent) :
    state.isIdle = true ∧ state.Rests status := by
  rcases meant with ⟨meant, _⟩ | ⟨meant, _⟩
  · obtain ⟨idle, _, rests, _⟩ := backed _ meant
    exact ⟨idle, rests⟩
  · obtain ⟨idle, _, rests⟩ := backed _ meant
    exact ⟨idle, rests⟩

end Backed

end SqlPipeline.Run
