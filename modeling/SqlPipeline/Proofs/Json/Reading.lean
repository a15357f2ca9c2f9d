import SqlPipeline.Json.Read
import SqlPipeline.Proofs.Json.Lexemes

/-!
Values read back. The lexemes of a value take the reader from wanting a value to having it in the
innermost open container, whatever is open and whatever comes after, so a value that was written
in either form is the value that is read.
-/

namespace SqlPipeline.Json

namespace Reader
variable {opens : List Open} {more : List Token}

theorem run_cons {reader next : Reader} {token : Token} (steps : step reader token = some next) :
    run reader (token :: more) = run next more := by
  rw [run, steps, Option.bind_some]

/-- A value whose lexemes are what the reader needs to have it. -/
def Delivers (value : Json) : Prop :=
  ∀ (opens : List Open) (more : List Token),
    run (.wantsValue opens) (tokens value ++ more) = run (deliver value opens) more

theorem closeRecord_reverse (entries : List (String × Json)) :
    closeRecord (entries.map fun entry => (some entry.1, entry.2)).reverse = .record entries := by
  have named : (entries.map fun entry => (some entry.1, entry.2)).mapM
      (fun entry => entry.1.map fun name => (name, entry.2)) = some entries := by
    induction entries with
    | nil => rfl
    | cons entry entries ih => simp [ih]
  rw [closeRecord, List.reverse_reverse, named]

-- A value never begins with the bracket that closes a list.
theorem run_wantsFirst (value : Json) :
    run (.wantsFirst opens) (tokens value ++ more) =
      run (.wantsValue (.list [] :: opens)) (tokens value ++ more) := by
  cases value with
  | null => rfl
  | bool value => rfl
  | number value => rfl
  | text value => rfl
  | list items => cases items <;> rfl
  | record entries => cases entries <;> rfl
  | unreadable => rfl

theorem run_itemTokens {items : List Json} (each : ∀ item ∈ items, Delivers item)
    (read : List Json) :
    run (.afterItem read opens) (itemTokens items ++ more) =
      run (deliver (.list (read.reverse ++ items)) opens) more := by
  induction items generalizing read with
  | nil =>
    rw [List.append_nil]
    exact run_cons rfl
  | cons item items ih =>
    obtain ⟨delivers, rest⟩ := List.forall_mem_cons.mp each
    have next : step (.afterItem read opens) .comma = some (.wantsValue (.list read :: opens)) :=
      rfl
    rw [itemTokens, List.cons_append, run_cons next, List.append_assoc, delivers, deliver,
      ih rest, List.reverse_cons, List.append_assoc, List.singleton_append]

-- From the name of an entry to the value that belongs to it.
theorem run_entry {value : Json} (delivers : Delivers value) (name : String)
    (read : List (Option String × Json)) :
    run (.wantsColon read (some name) opens) (.colon :: (tokens value ++ more)) =
      run (.afterEntry ((some name, value) :: read) opens) more := by
  have next : step (.wantsColon read (some name) opens) .colon =
      some (.wantsValue (.record read (some name) :: opens)) := rfl
  rw [run_cons next, delivers, deliver]

theorem run_entryTokens {entries : List (String × Json)}
    (each : ∀ entry ∈ entries, Delivers entry.2) (read : List (String × Json)) :
    run (.afterEntry (read.map fun entry => (some entry.1, entry.2)).reverse opens)
        (entryTokens entries ++ more) =
      run (deliver (.record (read ++ entries)) opens) more := by
  induction entries generalizing read with
  | nil =>
    rw [List.append_nil, ← closeRecord_reverse read]
    exact run_cons rfl
  | cons entry entries ih =>
    obtain ⟨delivers, rest⟩ := List.forall_mem_cons.mp each
    have grown := ih rest (read ++ [entry])
    rw [List.map_append, List.reverse_append, List.append_assoc] at grown
    rw [entryTokens, List.cons_append, run_cons rfl, List.cons_append, run_cons rfl,
      List.cons_append, List.append_assoc, run_entry delivers]
    exact grown

theorem delivers_of_plain {value : Json} (plain : Plain value) : Delivers value := by
  induction plain with
  | null => exact fun opens more => run_cons rfl
  | bool value => exact fun opens more => run_cons rfl
  | text value => exact fun opens more => run_cons rfl
  | @list items each ih =>
    intro opens more
    cases items with
    | nil =>
      rw [tokens, List.cons_append, run_cons rfl, List.cons_append, run_cons rfl]
      rfl
    | cons first items =>
      obtain ⟨delivers, rest⟩ := List.forall_mem_cons.mp ih
      rw [tokens, List.cons_append, run_cons rfl, List.append_assoc, run_wantsFirst, delivers,
        deliver, run_itemTokens rest]
      rfl
  | @record entries each ih =>
    intro opens more
    cases entries with
    | nil =>
      rw [tokens, List.cons_append, run_cons rfl, List.cons_append, run_cons rfl]
      rfl
    | cons first entries =>
      obtain ⟨delivers, rest⟩ := List.forall_mem_cons.mp ih
      rw [tokens, List.cons_append, run_cons rfl, List.cons_append, run_cons rfl,
        List.cons_append, List.append_assoc, run_entry delivers]
      exact run_entryTokens rest [first]

end Reader

theorem ofTokens?_tokens {value : Json} (plain : Plain value) :
    ofTokens? (tokens value) = some value := by
  have delivered := Reader.delivers_of_plain plain [] []
  rw [List.append_nil] at delivered
  rw [ofTokens?, delivered]
  rfl

theorem read?_write {layout : Layout} (blank : layout.Blank) {value : Json} (plain : Plain value) :
    read? (String.ofList (write layout 0 value)) = some value := by
  rw [read?, String.toList_ofList, Token.scan_write blank plain, Option.bind_some,
    ofTokens?_tokens plain]

theorem read?_pretty {value : Json} (plain : Plain value) : read? value.pretty = some value :=
  read?_write Layout.blank_pretty plain

end SqlPipeline.Json
