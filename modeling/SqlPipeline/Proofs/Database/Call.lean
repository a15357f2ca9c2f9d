import SqlPipeline.Database.Duck.Backend
import SqlPipeline.Proofs.Text.Trim

/-!
The call a statement goes by. It is settled by how the statement begins, so whatever is filled in
behind the first few letters cannot change it.
-/

namespace SqlPipeline.Duck

/-- Text that settles how a statement goes which begins with it: no blank comes first, and it is no
part of a word that counts. -/
def Opens (opening : String) : Prop :=
  (∀ c ∈ opening.toList.head?, Text.isBlank c = false) ∧
    ∀ word ∈ rowWords, opening.toList.map Char.toLower <+: word →
      word.length ≤ opening.toList.length

instance (opening : String) : Decidable (Opens opening) :=
  @instDecidableAnd _ _ (Option.decidableForallMem _) (List.decidableBAll _ _)

section Openings
variable {opening : String}

theorem returnsRows_iff (bare : ∀ c ∈ opening.toList.head?, Text.isBlank c = false) :
    returnsRows opening = true ↔ ∃ word ∈ rowWords, word <+: opening.toList.map Char.toLower := by
  rw [returnsRows, Text.trimStart_eq_self bare, List.any_eq_true]
  exact exists_congr fun word => and_congr_right fun _ => List.isPrefixOf_iff_prefix

theorem Opens.bare_append (opens : Opens opening) (rest : String) :
    ∀ c ∈ (opening ++ rest).toList.head?, Text.isBlank c = false := by
  obtain ⟨bare, long⟩ := opens
  have some : opening.toList ≠ [] := by
    intro none
    have listed : "select".toList ∈ rowWords := by decide
    have short := long _ listed
    rw [none] at short
    exact absurd (short List.nil_prefix) (by decide)
  rw [String.toList_append, List.head?_append, List.head?_eq_some_head some]
  rwa [List.head?_eq_some_head some] at bare

theorem returnsRows_append (opens : Opens opening) (rest : String) :
    returnsRows (opening ++ rest) = returnsRows opening := by
  rw [Bool.eq_iff_iff, returnsRows_iff opens.1, returnsRows_iff (opens.bare_append rest),
    String.toList_append, List.map_append]
  refine exists_congr fun word => and_congr_right fun listed =>
    ⟨fun begins => ?_, fun begins => begins.trans (List.prefix_append _ _)⟩
  -- A word that is not in the opening begins with it, and then it is no longer than it.
  rcases List.prefix_or_prefix_of_prefix begins (List.prefix_append _ _) with within | beyond
  · exact within
  · have short := opens.2 word listed beyond
    exact (beyond.eq_of_length_le (by rwa [List.length_map])).symm ▸ List.prefix_rfl

end Openings

/-- The call that fits a statement. -/
def callOf (sql : String) : Call := if returnsRows sql then .query sql else .batch sql

section Calls
variable {connection : Connection} {sql opening rest : String}

theorem callOf_query (opens : Opens opening) (rows : returnsRows opening = true) (rest : String) :
    callOf (opening ++ rest) = .query (opening ++ rest) := by
  rw [callOf, returnsRows_append opens, rows, if_pos rfl]

theorem callOf_batch (opens : Opens opening) (silent : returnsRows opening = false)
    (rest : String) : callOf (opening ++ rest) = .batch (opening ++ rest) := by
  rw [callOf, returnsRows_append opens, silent]
  rfl

theorem calls_statement (connection : Connection) (sql : String) :
    (statement sql connection).2.calls = connection.calls ++ [callOf sql] := by
  have sent : (connection.send sql).2.calls = connection.calls ++ [callOf sql] := rfl
  unfold statement
  split <;> rename_i same <;> rw [same] at sent <;> exact sent

theorem execute_of_usable (usable : connection.poisoned = false) :
    execute sql connection = statement sql connection := by
  simp [execute, guarded, usable]

theorem calls_execute (usable : connection.poisoned = false) (sql : String) :
    (execute sql connection).2.calls = connection.calls ++ [callOf sql] := by
  rw [execute_of_usable usable, calls_statement]

-- Only a statement during which the engine panics makes a connection unusable.
theorem usable_of_execute {result : Rows} {after : Connection}
    (usable : connection.poisoned = false)
    (done : execute sql connection = (.ok result, after)) : after.poisoned = false := by
  rw [execute_of_usable usable] at done
  have sent : (connection.send sql).2.poisoned = false := usable
  unfold statement at done
  split at done <;> cases done
  rename_i same
  rwa [same] at sent

/-- What is left of a connection when a statement has been answered. -/
def Connection.answered (connection : Connection) (sql : String) : Connection :=
  ⟨(nextAnswer sql connection.answers).2, connection.calls ++ [callOf sql], false⟩

theorem execute_of_query {result : Rows} (usable : connection.poisoned = false)
    (rows : returnsRows sql = true)
    (reply : (nextAnswer sql connection.answers).1.replyRows = .rows result) :
    execute sql connection = (.ok result, connection.answered sql) := by
  simp [execute_of_usable usable, statement, Connection.send, Connection.answered, callOf, rows,
    reply, usable]

theorem execute_of_batch {result : Rows} (usable : connection.poisoned = false)
    (silent : returnsRows sql = false)
    (reply : (nextAnswer sql connection.answers).1.replyBatch = .rows result) :
    execute sql connection = (.ok result, connection.answered sql) := by
  simp [execute_of_usable usable, statement, Connection.send, Connection.answered, callOf, silent,
    reply, usable]

end Calls

section Turns
variable {sql other : String} {listed : List Answer} {rest : List (String × List Answer)}

theorem nextAnswer_last (sql : String) (answer : Answer) (rest : List (String × List Answer)) :
    nextAnswer sql ((sql, [answer]) :: rest) = (answer, (sql, [answer]) :: rest) := by
  simp [nextAnswer]

theorem nextAnswer_cons_of_ne (different : other ≠ sql) :
    nextAnswer sql ((other, listed) :: rest) =
      ((nextAnswer sql rest).1, (other, listed) :: (nextAnswer sql rest).2) := by
  rw [nextAnswer.eq_def]
  simp only [if_neg different]

-- Whose turn it is among the answers to one statement does not change with another one.
theorem nextAnswer_of_ne (different : other ≠ sql) (answers : List (String × List Answer)) :
    (nextAnswer sql (nextAnswer other answers).2).1 = (nextAnswer sql answers).1 := by
  induction answers with
  | nil => rfl
  | cons entry rest ih =>
    obtain ⟨statement, listed⟩ := entry
    by_cases same : statement = other
    · subst same
      cases listed with
      | nil => simp [nextAnswer]
      | cons first later =>
        cases later with
        | nil => simp [nextAnswer]
        | cons => simp [nextAnswer, different]
    · rw [nextAnswer_cons_of_ne same]
      by_cases own : statement = sql
      · subst own
        cases listed with
        | nil => simp [nextAnswer]
        | cons first later => cases later <;> simp [nextAnswer]
      · rw [nextAnswer_cons_of_ne own, nextAnswer_cons_of_ne own, ih]

end Turns
end SqlPipeline.Duck
