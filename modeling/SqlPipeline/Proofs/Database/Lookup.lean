import SqlPipeline.Proofs.Database.Call
import SqlPipeline.Proofs.Sql.Token

/-!
Looking up a target. Whatever its names are made of, the two statements are always the same but for
the literals, which hold the names as they are. So a target cannot change what is asked, and no two
targets ask the same. The columns are asked for where the first answer begins with a text, and what
is returned is read off the two answers.
-/

namespace SqlPipeline.Duck

open Sql (Token)

/-! ## What is asked -/

/-- The tokens of a condition on one column. -/
def condition (column value : String) : List Token :=
  [.word column, .mark '=', .literal value]

/-- The tokens of the condition that picks out a target. -/
def conditions (target : Target) : List Token :=
  condition "table_schema" target.schema ++ .word "AND" :: condition "table_name" target.name
    ++ (match target.database with
      | some database => .word "AND" :: condition "table_catalog" database
      | none => [])

/-- What is selected from a view of the information schema. -/
def asking (column view : String) : List Token :=
  [.word "SELECT", .word column, .word "FROM", .word "information_schema", .mark '.', .word view,
    .word "WHERE"]

def kindTokens (target : Target) : List Token := asking "table_type" "tables" ++ conditions target

def columnsTokens (target : Target) : List Token :=
  asking "column_name" "columns" ++ conditions target
    ++ [.word "ORDER", .word "BY", .word "ordinal_position"]

/-- The names of a target, in the order in which a lookup gives them. -/
def names (target : Target) : List String :=
  target.schema :: target.name :: target.database.toList

section Tokens
variable {opening rest : String} {found : List Token}

theorem tokens_condition (read : Sql.Place.between.run opening.toList = (found, .between))
    (single : rest.toList.head? ≠ some '\x27') (value : String) :
    Sql.tokens (opening ++ (literal value ++ rest)) =
      (Sql.tokens rest).map (found ++ .literal value :: ·) := by
  rw [Sql.tokens_append read, literal, Sql.tokens_literal_append single, Option.map_map]
  rfl

-- What stands between the literals begins with a blank, so none of it is taken for a second quote.
theorem tokens_targetFilter (single : rest.toList.head? ≠ some '\x27') (target : Target) :
    Sql.tokens (targetFilter target ++ rest) = (Sql.tokens rest).map (conditions target ++ ·) := by
  have schemaRead : Sql.Place.between.run "table_schema = ".toList =
      ([.word "table_schema", .mark '='], .between) := by decide
  have nameRead : Sql.Place.between.run " AND table_name = ".toList =
      ([.word "AND", .word "table_name", .mark '='], .between) := by decide
  have databaseRead : Sql.Place.between.run " AND table_catalog = ".toList =
      ([.word "AND", .word "table_catalog", .mark '='], .between) := by decide
  have blank (word text : String) (opens : word.toList.head? = some ' ') :
      (word ++ text).toList.head? ≠ some '\x27' := by
    rw [String.toList_append, List.head?_append, opens]
    exact fun same => absurd (Option.some.inj same) (by decide)
  obtain ⟨schema, name, database⟩ := target
  unfold targetFilter
  cases database with
  | none =>
    simp only [String.append_assoc, String.append_empty]
    rw [tokens_condition schemaRead (blank _ _ (by decide)), tokens_condition nameRead single,
      Option.map_map]
    rfl
  | some database =>
    simp only [String.append_assoc]
    rw [tokens_condition schemaRead (blank _ _ (by decide)),
      tokens_condition nameRead (blank _ _ (by decide)), tokens_condition databaseRead single,
      Option.map_map, Option.map_map]
    rfl

theorem tokens_kindQuery (target : Target) :
    Sql.tokens (kindQuery target) = some (kindTokens target) := by
  have read : Sql.Place.between.run
      "SELECT table_type FROM information_schema.tables WHERE ".toList =
        (asking "table_type" "tables", .between) := by decide +kernel
  have filter := tokens_targetFilter (show "".toList.head? ≠ some '\x27' by decide) target
  have none : Sql.tokens "" = some [] := by decide
  rw [String.append_empty, none] at filter
  unfold kindQuery kindTokens
  rw [Sql.tokens_append read, filter]
  simp

theorem tokens_columnsQuery (target : Target) :
    Sql.tokens (columnsQuery target) = some (columnsTokens target) := by
  have read : Sql.Place.between.run
      "SELECT column_name FROM information_schema.columns WHERE ".toList =
        (asking "column_name" "columns", .between) := by decide +kernel
  have order : Sql.tokens " ORDER BY ordinal_position" =
      some [.word "ORDER", .word "BY", .word "ordinal_position"] := by decide
  unfold columnsQuery columnsTokens
  rw [String.append_assoc, Sql.tokens_append read, tokens_targetFilter (by decide), order]
  simp

end Tokens

section Literals

theorem literals_conditions (target : Target) :
    Sql.literals (conditions target) = names target := by
  obtain ⟨schema, name, database⟩ := target
  cases database <;> rfl

theorem literals_kindTokens (target : Target) : Sql.literals (kindTokens target) = names target :=
  literals_conditions target

theorem literals_columnsTokens (target : Target) :
    Sql.literals (columnsTokens target) = names target := by
  have order : Sql.literals [.word "ORDER", .word "BY", .word "ordinal_position"] = [] := rfl
  rw [columnsTokens, Sql.literals, List.filterMap_append]
  exact (congrArg₂ (· ++ ·) (literals_conditions target) order).trans (List.append_nil _)

theorem names_injective : Function.Injective names := by
  rintro ⟨schema, name, database⟩ ⟨other, another, catalog⟩ same
  simp only [names, List.cons.injEq] at same
  obtain ⟨rfl, rfl, listed⟩ := same
  rw [show database = catalog by simpa using congrArg List.head? listed]

theorem shape_conditions {target other : Target}
    (same : target.database.isSome = other.database.isSome) :
    (conditions target).map Token.shape = (conditions other).map Token.shape := by
  obtain ⟨schema, name, database⟩ := target
  obtain ⟨schema', name', database'⟩ := other
  cases database <;> cases database' <;> first | rfl | cases same

theorem kindQuery_injective : Function.Injective kindQuery := by
  intro target other same
  have read := tokens_kindQuery target
  rw [same, tokens_kindQuery, Option.some.injEq] at read
  apply names_injective
  rw [← literals_kindTokens, ← literals_kindTokens, read]

theorem columnsQuery_injective : Function.Injective columnsQuery := by
  intro target other same
  have read := tokens_columnsQuery target
  rw [same, tokens_columnsQuery, Option.some.injEq] at read
  apply names_injective
  rw [← literals_columnsTokens, ← literals_columnsTokens, read]

end Literals

/-! ## What is answered -/

/-- The first statement is answered, and the first cell of its answer is a text. -/
def Listed (target : Target) (connection : Connection) : Prop :=
  ∃ kinds between kind, execute (kindQuery target) connection = (.ok kinds, between) ∧
    kinds.scalar? = some (.text kind)

/-- What is made of the answers to the two statements, and the connection as they leave it. -/
inductive Looks (target : Target) (connection : Connection) :
    Except DbError (Option Existing) × Connection → Prop where
  | refused {error : DbError} {after : Connection}
      (first : execute (kindQuery target) connection = (.error error, after)) :
      Looks target connection (.error error, after)
  | absent {kinds : Rows} {after : Connection}
      (first : execute (kindQuery target) connection = (.ok kinds, after))
      (other : ∀ kind, kinds.scalar? ≠ some (.text kind)) :
      Looks target connection (.ok none, after)
  | unlisted {kinds : Rows} {between after : Connection} {kind : String} {error : DbError}
      (first : execute (kindQuery target) connection = (.ok kinds, between))
      (cell : kinds.scalar? = some (.text kind))
      (second : execute (columnsQuery target) between = (.error error, after)) :
      Looks target connection (.error error, after)
  | found {kinds columns : Rows} {between after : Connection} {kind : String}
      {relation : Relation} {listed : List String}
      (first : execute (kindQuery target) connection = (.ok kinds, between))
      (cell : kinds.scalar? = some (.text kind))
      (second : execute (columnsQuery target) between = (.ok columns, after))
      (view : relation = .view ↔ kind = "VIEW")
      (texts : listed.map Json.text =
        (columns.rows.filterMap List.head?).filter fun cell => cell.asText?.isSome) :
      Looks target connection (.ok (some ⟨target, relation, listed⟩), after)

section Answers
variable {target : Target} {connection : Connection} {kinds : Rows}

theorem asText?_eq_some_iff {cell : Json} {text : String} :
    cell.asText? = some text ↔ cell = .text text := by
  cases cell <;> simp [Json.asText?]

theorem kindOf?_of_text {kind : String} (cell : kinds.scalar? = some (.text kind)) :
    kindOf? kinds = some (if kind = "VIEW" then .view else .table) := by
  rw [kindOf?, cell]
  rfl

theorem kindOf?_of_no_text (other : ∀ kind, kinds.scalar? ≠ some (.text kind)) :
    kindOf? kinds = none := by
  rw [kindOf?, Option.map_eq_none_iff, Option.bind_eq_none_iff]
  intro cell first
  rw [Option.eq_none_iff_forall_ne_some]
  intro kind text
  rw [asText?_eq_some_iff.mp text] at first
  exact other kind first

theorem map_text_firstTexts (result : Rows) :
    (firstTexts result).map Json.text =
      (result.rows.filterMap List.head?).filter fun cell => cell.asText?.isSome := by
  have each (cell : Json) : cell.asText?.map Json.text =
      if cell.asText?.isSome then some cell else none := by
    cases cell <;> rfl
  rw [firstTexts, List.map_filterMap, ← List.filterMap_eq_filter, List.filterMap_filterMap]
  congr 1
  funext row
  cases row with
  | nil => rfl
  | cons cell row => simpa [Option.guard] using each cell

theorem describe_of_usable (usable : connection.poisoned = false) :
    describe target connection =
      ((statement (kindQuery target)).andThen fun kinds =>
        match kindOf? kinds with
        | none => .done none
        | some relation =>
            (statement (columnsQuery target)).andThen fun columns =>
              .done (some ⟨target, relation, firstTexts columns⟩)) connection := by
  rw [describe, guarded, usable]
  rfl

theorem looks_describe (usable : connection.poisoned = false) :
    Looks target connection (describe target connection) := by
  rw [describe_of_usable usable, Use.andThen, ← execute_of_usable usable]
  cases first : execute (kindQuery target) connection with
  | mk answer between =>
    cases answer with
    | error error => exact .refused first
    | ok kinds =>
      by_cases text : ∃ kind, kinds.scalar? = some (.text kind)
      · obtain ⟨kind, cell⟩ := text
        simp only [kindOf?_of_text cell, Use.andThen]
        rw [← execute_of_usable (usable_of_execute usable first)]
        cases second : execute (columnsQuery target) between with
        | mk answer after =>
          cases answer with
          | error error => exact .unlisted first cell second
          | ok columns =>
            refine .found first cell second ?_ (map_text_firstTexts columns)
            by_cases view : kind = "VIEW" <;> simp [view]
      · have other := not_exists.mp text
        simp only [kindOf?_of_no_text other]
        exact .absent first other

theorem callOf_kindQuery (target : Target) :
    callOf (kindQuery target) = .query (kindQuery target) :=
  callOf_query (by decide +kernel) (by decide +kernel) _

theorem callOf_columnsQuery (target : Target) :
    callOf (columnsQuery target) = .query (columnsQuery target) := by
  unfold columnsQuery
  rw [String.append_assoc]
  exact callOf_query (by decide +kernel) (by decide +kernel) _

theorem calls_of_looks {outcome : Except DbError (Option Existing) × Connection}
    (usable : connection.poisoned = false) (looks : Looks target connection outcome) :
    (Listed target connection ∧ outcome.2.calls =
      connection.calls ++ [.query (kindQuery target), .query (columnsQuery target)]) ∨
    (¬ Listed target connection ∧
      outcome.2.calls = connection.calls ++ [.query (kindQuery target)]) := by
  have asked := calls_execute usable (kindQuery target)
  rw [callOf_kindQuery] at asked
  -- Both statements have been sent where the second one has an answer.
  have both {kinds : Rows} {between : Connection}
      (first : execute (kindQuery target) connection = (.ok kinds, between)) :
      (execute (columnsQuery target) between).2.calls =
        connection.calls ++ [.query (kindQuery target), .query (columnsQuery target)] := by
    rw [first] at asked
    rw [calls_execute (usable_of_execute usable first), asked, callOf_columnsQuery,
      List.append_assoc]
    rfl
  cases looks with
  | refused first =>
    rw [first] at asked
    refine .inr ⟨?_, asked⟩
    rintro ⟨kinds, between, kind, other, _⟩
    cases first.symm.trans other
  | absent first other =>
    rw [first] at asked
    refine .inr ⟨?_, asked⟩
    rintro ⟨kinds, between, kind, same, cell⟩
    cases first.symm.trans same
    exact other kind cell
  | unlisted first cell second | found first cell second =>
    have sent := both first
    rw [second] at sent
    exact .inl ⟨⟨_, _, _, first, cell⟩, sent⟩

theorem calls_describe_iff (usable : connection.poisoned = false) (target : Target) :
    ((describe target connection).2.calls =
        connection.calls ++ [.query (kindQuery target), .query (columnsQuery target)] ↔
      Listed target connection) ∧
    ((describe target connection).2.calls = connection.calls ++ [.query (kindQuery target)] ↔
      ¬ Listed target connection) := by
  have looks : Looks target connection (describe target connection) := looks_describe usable
  rcases calls_of_looks usable looks with ⟨listed, sent⟩ | ⟨unlisted, sent⟩
  · simp [sent, listed]
  · simp [sent, unlisted]

end Answers

/-- A connection on which an earlier statement broke down asks nothing. -/
theorem describe_of_poisoned {connection : Connection} (poisoned : connection.poisoned = true)
    (target : Target) :
    describe target connection = (.error (.poisoned poisonText), connection) := by
  rw [describe, guarded, poisoned]
  rfl

theorem lookup_of_target (target : Target) :
    Sql.tokens (kindQuery target) = some (kindTokens target) ∧
    Sql.tokens (columnsQuery target) = some (columnsTokens target) ∧
    Sql.literals (kindTokens target) = names target ∧
    Sql.literals (columnsTokens target) = names target ∧
    (∀ other : Target, other.database.isSome = target.database.isSome →
      (kindTokens other).map Token.shape = (kindTokens target).map Token.shape ∧
      (columnsTokens other).map Token.shape = (columnsTokens target).map Token.shape) ∧
    (∀ other, other ≠ target →
      kindQuery other ≠ kindQuery target ∧ columnsQuery other ≠ columnsQuery target) ∧
    ∀ connection : Connection,
      (connection.poisoned = false →
        Looks target connection (describe target connection) ∧
        ((describe target connection).2.calls =
            connection.calls ++ [.query (kindQuery target), .query (columnsQuery target)] ↔
          Listed target connection) ∧
        ((describe target connection).2.calls = connection.calls ++ [.query (kindQuery target)] ↔
          ¬ Listed target connection)) ∧
      (connection.poisoned = true →
        describe target connection = (.error (.poisoned poisonText), connection)) := by
  refine ⟨tokens_kindQuery target, tokens_columnsQuery target, literals_kindTokens target,
    literals_columnsTokens target, ?_, ?_, ?_⟩
  · intro other same
    simp only [kindTokens, columnsTokens, List.map_append, shape_conditions same, and_self]
  · intro other different
    exact ⟨kindQuery_injective.ne different, columnsQuery_injective.ne different⟩
  · intro connection
    exact ⟨fun usable => ⟨looks_describe usable, calls_describe_iff usable target⟩,
      fun poisoned => describe_of_poisoned poisoned target⟩

/-- Names that try to end the literals they stand in. -/
def hostile : Target := ⟨"O'Brien", "x' OR '1'='1", some "''"⟩

def harmless : Target := ⟨"orders", "items", some "shop"⟩

def hostileKinds : Answer :=
  { Answer.silent with rows := [[.text "VIEW"]], columns := ["table_type"] }

/-- One of the columns has a name that is read as a number. -/
def hostileColumns : Answer :=
  { Answer.silent with
    rows := [[.text "id"], [.text "2020"], [.text "it's"]], columns := ["column_name"] }

def hostileConnection : Connection where
  answers := [(kindQuery hostile, [hostileKinds]), (columnsQuery hostile, [hostileColumns])]
  calls := []
  poisoned := false

theorem hostile_found :
    harmless.database.isSome = hostile.database.isSome ∧
    (kindTokens harmless).map Token.shape = (kindTokens hostile).map Token.shape ∧
    harmless ≠ hostile ∧ columnsQuery harmless ≠ columnsQuery hostile ∧
    Sql.literals (kindTokens hostile) = ["O'Brien", "x' OR '1'='1", "''"] ∧
    hostileConnection.poisoned = false ∧ Listed hostile hostileConnection ∧
    (describe hostile hostileConnection).1 = .ok (some ⟨hostile, .view, ["id", "it's"]⟩) ∧
    (describe hostile hostileConnection).2.calls =
      [.query (kindQuery hostile), .query (columnsQuery hostile)] ∧
    describe hostile { hostileConnection with poisoned := true } =
      (.error (.poisoned poisonText), { hostileConnection with poisoned := true }) := by
  obtain ⟨_, _, literals, _, shape, different, answers⟩ := lookup_of_target hostile
  obtain ⟨looks, sent, _⟩ := (answers hostileConnection).1 rfl
  have other : harmless ≠ hostile := by decide
  have turn : kindQuery hostile ≠ columnsQuery hostile := by decide +kernel
  have first : execute (kindQuery hostile) hostileConnection =
      (.ok hostileKinds.result, hostileConnection.answered (kindQuery hostile)) := by
    refine execute_of_query rfl (by decide +kernel) ?_
    rw [hostileConnection, nextAnswer_last]
    rfl
  have second : execute (columnsQuery hostile) (hostileConnection.answered (kindQuery hostile)) =
      (.ok hostileColumns.result, (hostileConnection.answered (kindQuery hostile)).answered
        (columnsQuery hostile)) := by
    refine execute_of_query rfl (by decide +kernel) ?_
    rw [Connection.answered, hostileConnection, nextAnswer_last, nextAnswer_cons_of_ne turn,
      nextAnswer_last]
    rfl
  have kind : hostileKinds.result.scalar? = some (.text "VIEW") := rfl
  have listed : Listed hostile hostileConnection := ⟨_, _, _, first, kind⟩
  refine ⟨rfl, (shape harmless rfl).1, other, (different harmless other).2, literals, rfl, listed,
    ?_, sent.mpr listed, (answers _).2 rfl⟩
  cases looked : describe hostile hostileConnection with
  | mk answer after =>
    rw [looked] at looks
    cases looks with
    | refused refusal => cases first.symm.trans refusal
    | absent answered none =>
      cases first.symm.trans answered
      exact absurd kind (none _)
    | unlisted answered _ refusal =>
      cases first.symm.trans answered
      cases second.symm.trans refusal
    | found answered cell columns view texts =>
      cases first.symm.trans answered
      cases second.symm.trans columns
      cases kind.symm.trans cell
      have columns : _ = ["id", "it's"].map Json.text := texts.trans rfl
      rw [view.mpr rfl, (List.map_inj_right fun _ _ => Json.text.inj).mp columns]

end SqlPipeline.Duck
