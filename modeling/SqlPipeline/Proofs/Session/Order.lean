import SqlPipeline.Proofs.Session.Agreement

/-!
The order of declarations. Where no two declarations have one name, nothing depends on which comes
first: names and patterns are looked up only after all of them were taken in. The errors come in the
order of the declarations they are about, and are otherwise the same.
-/

namespace SqlPipeline

namespace Declaration

/-- The same declaration, its dependencies listed in another order or more than once. -/
structure Relisted (declaration other : Declaration) : Prop where
  kept : other = { declaration with dependencies := other.dependencies }
  listed : ∀ name, name ∈ other.dependencies ↔ name ∈ declaration.dependencies

/-- The same declarations in another order, each perhaps relisted. -/
def Reordered (declarations others : List Declaration) : Prop :=
  ∃ arranged, declarations.Perm arranged ∧ List.Forall₂ Relisted arranged others

/-! ## One declaration -/

section Relisted
variable {declaration other : Declaration}

theorem Relisted.symm (relisted : Relisted declaration other) : Relisted other declaration := by
  obtain ⟨kept, listed⟩ := relisted
  refine ⟨?_, fun name => (listed name).symm⟩
  rw [kept]

theorem Relisted.name (relisted : Relisted declaration other) : other.name = declaration.name := by
  rw [relisted.kept]

theorem Relisted.kind (relisted : Relisted declaration other) : other.kind = declaration.kind := by
  rw [relisted.kept]

theorem Relisted.complaints (relisted : Relisted declaration other) (earlier : List String) :
    other.complaints earlier = declaration.complaints earlier := by
  rw [relisted.kept]
  rfl

-- What an action depends on is the set that its patterns stand for.
theorem Relisted.expanded_action (relisted : Relisted declaration other) {known names : List String}
    (same : ∀ name, name ∈ known ↔ name ∈ names) (config : ProjectConfig) (name : ActionName) :
    (other.action config name).expanded known =
      (declaration.action config name).expanded names := by
  have alike := Pattern.expand_congr relisted.listed same
  rw [relisted.kept]
  unfold action
  cases declaration.kind with
  | dataset flavour => simp only [Action.expanded, alike]; rfl
  | operations => simp only [Action.expanded, alike]; rfl
  | assertion => simp only [Action.expanded, alike]; rfl
  | test => rfl

end Relisted

/-! ## A list of declarations -/

section Reordered
variable {declarations others : List Declaration}

theorem forall₂_relisted_symm (relisted : List.Forall₂ Relisted declarations others) :
    List.Forall₂ Relisted others declarations := by
  induction relisted with
  | nil => exact .nil
  | cons first _ ih => exact .cons first.symm ih

theorem exists_relisted (relisted : List.Forall₂ Relisted declarations others)
    {declaration : Declaration} (listed : declaration ∈ declarations) :
    ∃ other ∈ others, Relisted declaration other := by
  induction relisted with
  | nil => cases listed
  | @cons head image rest images first _ ih =>
    cases listed with
    | head => exact ⟨image, List.mem_cons_self, first⟩
    | tail _ later =>
      obtain ⟨other, member, relisted⟩ := ih later
      exact ⟨other, List.mem_cons_of_mem image member, relisted⟩

theorem names_of_relisted (relisted : List.Forall₂ Relisted declarations others) :
    others.map Declaration.name = declarations.map Declaration.name := by
  induction relisted with
  | nil => rfl
  | cons first _ ih => rw [List.map_cons, List.map_cons, first.name, ih]

theorem complaints_of_relisted (relisted : List.Forall₂ Relisted declarations others) :
    (others.flatMap fun declaration => declaration.complaints []) =
      declarations.flatMap fun declaration => declaration.complaints [] := by
  induction relisted with
  | nil => rfl
  | cons first _ ih => rw [List.flatMap_cons, List.flatMap_cons, first.complaints, ih]

theorem Reordered.exists_relisted (reordered : Reordered declarations others)
    {declaration : Declaration} (listed : declaration ∈ declarations) :
    ∃ other ∈ others, Relisted declaration other := by
  obtain ⟨arranged, perm, relisted⟩ := reordered
  exact Declaration.exists_relisted relisted (perm.mem_iff.mp listed)

theorem Reordered.exists_original (reordered : Reordered declarations others)
    {other : Declaration} (listed : other ∈ others) :
    ∃ declaration ∈ declarations, Relisted declaration other := by
  obtain ⟨arranged, perm, relisted⟩ := reordered
  obtain ⟨declaration, member, same⟩ :=
    Declaration.exists_relisted (forall₂_relisted_symm relisted) listed
  exact ⟨declaration, perm.mem_iff.mpr member, same.symm⟩

theorem Reordered.nodup (reordered : Reordered declarations others)
    (distinct : (declarations.map Declaration.name).Nodup) :
    (others.map Declaration.name).Nodup := by
  obtain ⟨arranged, perm, relisted⟩ := reordered
  rw [names_of_relisted relisted]
  exact (perm.map Declaration.name).nodup_iff.mp distinct

theorem complaints_of_fresh {declaration : Declaration} {earlier : List String}
    (fresh : declaration.name ∉ earlier) :
    declaration.complaints earlier = declaration.complaints [] := by
  unfold complaints broken
  rw [if_neg fresh, if_neg List.not_mem_nil]

end Reordered
end Declaration

/-! ## Compiling -/

section Compile
variable {config : ProjectConfig} {declarations others : List Declaration}

-- A name declared once belongs to its declaration, wherever that stands.
theorem mem_registry_of_distinct (distinct : (declarations.map Declaration.name).Nodup)
    {kind : ActionKind} {action : Action} :
    action ∈ (compile config declarations).registry kind ↔
      ∃ declaration ∈ declarations,
        declaration.kind.actionKind = kind ∧ declaration.name = action.name.text ∧
          action = (declaration.action config action.name).expanded
            (compile config declarations).names := by
  rw [mem_registry_iff]
  constructor
  · rintro ⟨declaration, found, same⟩
    obtain ⟨listed, fits, named⟩ := Declaration.of_first? found
    exact ⟨declaration, listed, fits, named, same⟩
  · rintro ⟨declaration, listed, rfl, named, same⟩
    exact ⟨declaration, named ▸ first?_of_mem distinct listed, same⟩

theorem errors_of_distinct (distinct : (declarations.map Declaration.name).Nodup) :
    (compile config declarations).errors =
      declarations.flatMap fun declaration => declaration.complaints [] := by
  have fresh := (Declaration.nodup_names_iff declarations).mp distinct
  calc (compile config declarations).errors
      = (Declaration.withEarlier declarations).flatMap fun entry => entry.1.complaints entry.2 :=
        errors_of_compile config declarations
    _ = (Declaration.withEarlier declarations).flatMap fun entry => entry.1.complaints [] :=
        List.flatMap_congr fun entry member => Declaration.complaints_of_fresh (fresh entry member)
    _ = ((Declaration.withEarlier declarations).map Prod.fst).flatMap
          fun declaration => declaration.complaints [] := by rw [List.flatMap_map]
    _ = declarations.flatMap fun declaration => declaration.complaints [] := by
        rw [Declaration.map_fst_withEarlier]

theorem mem_names_of_reordered (config : ProjectConfig)
    (reordered : Declaration.Reordered declarations others) (name : String) :
    name ∈ (compile config others).names ↔ name ∈ (compile config declarations).names := by
  rw [mem_names_of_compile, mem_names_of_compile]
  apply and_congr_right
  intro _
  constructor
  · rintro ⟨other, listed, executable, rfl⟩
    obtain ⟨declaration, member, relisted⟩ := reordered.exists_original listed
    exact ⟨declaration, member, relisted.kind ▸ executable, relisted.name.symm⟩
  · rintro ⟨declaration, listed, executable, rfl⟩
    obtain ⟨other, member, relisted⟩ := reordered.exists_relisted listed
    exact ⟨other, member, relisted.kind ▸ executable, relisted.name⟩

theorem mem_registry_of_reordered (distinct : (declarations.map Declaration.name).Nodup)
    (reordered : Declaration.Reordered declarations others) (kind : ActionKind) (action : Action) :
    action ∈ (compile config others).registry kind ↔
      action ∈ (compile config declarations).registry kind := by
  rw [mem_registry_of_distinct distinct, mem_registry_of_distinct (reordered.nodup distinct)]
  have known := mem_names_of_reordered config reordered
  constructor
  · rintro ⟨other, listed, fits, named, same⟩
    obtain ⟨declaration, member, relisted⟩ := reordered.exists_original listed
    rw [relisted.expanded_action known] at same
    exact ⟨declaration, member, relisted.kind ▸ fits, relisted.name ▸ named, same⟩
  · rintro ⟨declaration, listed, fits, named, same⟩
    obtain ⟨other, member, relisted⟩ := reordered.exists_relisted listed
    rw [← relisted.expanded_action known] at same
    exact ⟨other, member, relisted.kind ▸ fits, relisted.name ▸ named, same⟩

theorem errors_of_reordered (distinct : (declarations.map Declaration.name).Nodup)
    (reordered : Declaration.Reordered declarations others) :
    (compile config others).errors.Perm (compile config declarations).errors := by
  rw [errors_of_distinct distinct, errors_of_distinct (reordered.nodup distinct)]
  obtain ⟨arranged, perm, relisted⟩ := reordered
  rw [Declaration.complaints_of_relisted relisted]
  exact (perm.flatMap_right _).symm

end Compile

theorem compile_of_reordered (config : ProjectConfig) {declarations others : List Declaration}
    (distinct : (declarations.map Declaration.name).Nodup)
    (reordered : Declaration.Reordered declarations others) :
    ∃ errors, errors.Perm (compile config declarations).errors ∧
      compile config others = { compile config declarations with errors } := by
  refine ⟨(compile config others).errors, errors_of_reordered distinct reordered, ?_⟩
  apply CompiledGraph.eq_of_registry
  · rw [config_of_compile, config_of_compile]
  · intro kind
    apply CompiledGraph.InOrder.eq_of_mem_iff (pairwise_registry config others kind)
      (pairwise_registry config declarations kind)
    exact mem_registry_of_reordered distinct reordered kind

-- A pattern and a name that stand before what they mean, and two declarations that break rules.
def harbour : List Declaration :=
  [{ Declaration.single (.dataset .view) "port.report" "select 1" with
      dependencies := ["port.*", "crew"] },
    { Declaration.single .assertion "port.full" "select 2" with isProtected := true },
    { Declaration.single .operations "crew" "analyze" with disabled := true }]

/-- The same files read from the last to the first, the report depending on everything twice. -/
def harbourBackwards : List Declaration :=
  [{ Declaration.single .operations "crew" "analyze" with disabled := true },
    { Declaration.single .assertion "port.full" "select 2" with isProtected := true },
    { Declaration.single (.dataset .view) "port.report" "select 1" with
      dependencies := ["crew", "port.*", "crew", "port.*"] }]

theorem harbour_reordered :
    (harbour.map Declaration.name).Nodup ∧ Declaration.Reordered harbour harbourBackwards ∧
      (compile .standard harbour).tables.map Table.dependencies =
        [["crew", "port.full", "port.report"]] ∧
      ∃ errors, errors.Perm (compile .standard harbour).errors ∧ errors.length = 2 ∧
        compile .standard harbourBackwards = { compile .standard harbour with errors } := by
  have distinct : (harbour.map Declaration.name).Nodup := by decide
  have reordered : Declaration.Reordered harbour harbourBackwards := by
    refine ⟨harbour.reverse, (List.reverse_perm harbour).symm, .cons ?_ (.cons ?_ (.cons ?_ .nil))⟩
    · exact ⟨rfl, fun name => Iff.rfl⟩
    · exact ⟨rfl, fun name => Iff.rfl⟩
    · refine ⟨rfl, fun name => ?_⟩
      simp only [List.mem_cons, List.not_mem_nil, or_false]
      constructor
      · rintro (crew | port | crew | port) <;> simp [*]
      · rintro (port | crew) <;> simp [*]
  obtain ⟨errors, perm, same⟩ := compile_of_reordered .standard distinct reordered
  refine ⟨distinct, reordered, by decide, errors, perm, ?_, same⟩
  rw [perm.length_eq]
  decide

end SqlPipeline
