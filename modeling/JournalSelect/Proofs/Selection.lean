import JournalSelect.Proofs.Filter.Compile
import JournalSelect.Proofs.Filter.Validation
import JournalSelect.Proofs.Program

namespace JournalSelect

open CommandLine (Command)

namespace Files

variable {α : Type}

def Opens (files : Files) (path : String) : Prop :=
  files path ≠ .missing

def Reads (files : Files) (path : String) (read? : String → Option α) (a : α) : Prop :=
  ∃ content text, files path = .file content ∧ text? content = some text ∧ read? text = some a

end Files

-- Which tags are asked for. Without a filter these are all.
inductive Wanted (files : Files) : Option String → (Tags → Prop) → Prop
  | all : Wanted files none fun _ => True
  | filter {path f} :
    files.Reads path Filter.read? f → (∀ c ∈ f.conditions, c.Valid) →
    Wanted files (some path) f.Holds

open Classical in
noncomputable def Catalog.names (catalog : Catalog) (wanted : Tags → Prop) : List String :=
  (catalog.journals.filter fun journal => wanted journal.tags).map Journal.name

inductive Stage where
  | openFilter
  | parseFilter
  | compileFilter
  | openCatalog
  | parseCatalog

namespace Stage

def ofFilter : List Stage :=
  [openFilter, parseFilter, compileFilter]

def ofCatalog : List Stage :=
  [openCatalog, parseCatalog]

def inOrder : List Stage :=
  ofFilter ++ ofCatalog

-- A stage that is given nothing to work on does not fail.
def Fails (files : Files) (catalogPath : String) (filterPath : Option String) (failure : Failure) :
    Stage → Prop
  | openFilter =>
    ∃ path ∈ filterPath, ¬files.Opens path ∧ failure = .filterNotOpened path
  | parseFilter =>
    ∃ path ∈ filterPath, files.Opens path ∧ (∀ f, ¬files.Reads path Filter.read? f) ∧
      failure = .filterNotParsed path
  | compileFilter =>
    ∃ path ∈ filterPath, ∃ f cause, files.Reads path Filter.read? f ∧
      (∃ before c after,
        f.conditions = before ++ c :: after ∧ (∀ b ∈ before, b.Valid) ∧ c.Fault cause) ∧
      failure = .filterInvalid cause
  | openCatalog =>
    ¬files.Opens catalogPath ∧ failure = .catalogNotOpened catalogPath
  | parseCatalog =>
    files.Opens catalogPath ∧ (∀ catalog, ¬files.Reads catalogPath Catalog.read? catalog) ∧
      failure = .catalogNotParsed catalogPath

def Passes (files : Files) (catalogPath : String) (filterPath : Option String) (stage : Stage) :
    Prop :=
  ∀ failure, ¬stage.Fails files catalogPath filterPath failure

def FirstFails (files : Files) (catalogPath : String) (filterPath : Option String)
    (failure : Failure) (stages : List Stage) : Prop :=
  ∃ before stage after, stages = before ++ stage :: after ∧
    (∀ earlier ∈ before, earlier.Passes files catalogPath filterPath) ∧
    stage.Fails files catalogPath filterPath failure

end Stage

variable {files : Files} {catalogPath : String} {filterPath : Option String} {failure : Failure}

namespace Files

variable {α : Type} {path : String} {read? : String → Option α} {a : α}
  {notOpened notParsed : String → Failure}

theorem Reads.opens (h : files.Reads path read? a) : files.Opens path := by
  have ⟨_, _, hf, _⟩ := h
  simp [Opens, hf]

theorem reads_iff_of_file {content : ByteArray} (h : files path = .file content) :
    files.Reads path read? a ↔ (text? content).bind read? = some a := by
  simp [Reads, h, Option.bind_eq_some_iff]

theorem load_eq_ok_iff :
    files.load path read? notOpened notParsed = .ok a ↔ files.Reads path read? a := by
  cases h : files path
  case missing | folder => simp [load, Reads, h]
  case file content     =>
    rw [reads_iff_of_file h]
    cases hr : (text? content).bind read? <;> simp [load, h, hr]

theorem load_eq_error_iff :
    files.load path read? notOpened notParsed = .error failure ↔
    ¬files.Opens path ∧ failure = notOpened path ∨
    files.Opens path ∧ (∀ a, ¬files.Reads path read? a) ∧ failure = notParsed path := by
  cases h : files path
  case missing | folder => simp [load, Opens, Reads, h, eq_comm]
  case file content     =>
    simp only [reads_iff_of_file h]
    cases hr : (text? content).bind read? <;> simp [load, Opens, h, hr, eq_comm]

end Files

namespace Stage

variable {stage : Stage} {stages later : List Stage}

theorem not_firstFails_nil : ¬FirstFails files catalogPath filterPath failure [] := by
  simp [FirstFails]

theorem firstFails_cons_iff :
    FirstFails files catalogPath filterPath failure (stage :: stages) ↔
    stage.Fails files catalogPath filterPath failure ∨
    stage.Passes files catalogPath filterPath ∧
      FirstFails files catalogPath filterPath failure stages := by
  constructor
  case mp =>
    rintro ⟨_ | ⟨_, before⟩, _, after, hs, hp, hf⟩
    case nil  => exact .inl <| (List.cons.inj hs).left ▸ hf
    case cons =>
      have ⟨hd, hs⟩ := List.cons.inj hs
      have ⟨hp, hb⟩ := List.forall_mem_cons.mp hp
      exact .inr ⟨hd ▸ hp, before, _, after, hs, hb, hf⟩
  case mpr =>
    rintro (hf | ⟨hp, before, _, after, rfl, hb, hf⟩)
    case inl => exact ⟨[], stage, stages, rfl, by simp, hf⟩
    case inr => exact ⟨stage :: before, _, after, rfl, List.forall_mem_cons.mpr ⟨hp, hb⟩, hf⟩

theorem firstFails_append_iff :
    FirstFails files catalogPath filterPath failure (stages ++ later) ↔
    FirstFails files catalogPath filterPath failure stages ∨
    (∀ stage ∈ stages, stage.Passes files catalogPath filterPath) ∧
      FirstFails files catalogPath filterPath failure later := by
  induction stages
  case nil       => simp [not_firstFails_nil]
  case cons _ hi =>
    simp only [List.cons_append, firstFails_cons_iff, hi, List.forall_mem_cons]
    tauto

-- Where at most one stage can fail there is no need to look for the first one.
theorem firstFails_iff_of_pairwise
    (h : stages.Pairwise fun s t =>
      t.Passes files catalogPath filterPath ∨ s.Passes files catalogPath filterPath) :
    FirstFails files catalogPath filterPath failure stages ↔
    ∃ stage ∈ stages, stage.Fails files catalogPath filterPath failure := by
  induction stages
  case nil       => simp [not_firstFails_nil]
  case cons _ hi =>
    have ⟨hd, ht⟩ := List.pairwise_cons.mp h
    rw [firstFails_cons_iff, hi ht, List.exists_mem_cons_iff]
    refine or_congr_right <| and_iff_right_of_imp ?_
    rintro ⟨_, hm, hf⟩
    exact (hd _ hm).resolve_left fun hp => hp failure hf

-- A filter that is read has been opened and parsed, and without one there is nothing to compile.
theorem ofFilter_pairwise : ofFilter.Pairwise fun s t =>
    t.Passes files catalogPath filterPath ∨ s.Passes files catalogPath filterPath := by
  cases filterPath
  case none      => simp [ofFilter, Passes, Fails]
  case some path =>
    by_cases hr : ∃ f, files.Reads path Filter.read? f
    case pos =>
      have ⟨f, hf⟩ := hr
      simp [ofFilter, Passes, Fails, hf.opens, hr]
    case neg =>
      have hn := not_exists.mp hr
      by_cases ho : files.Opens path <;> simp [ofFilter, Passes, Fails, ho, hn]

theorem ofCatalog_pairwise : ofCatalog.Pairwise fun s t =>
    t.Passes files catalogPath filterPath ∨ s.Passes files catalogPath filterPath := by
  by_cases h : files.Opens catalogPath <;> simp [ofCatalog, Passes, Fails, h]

end Stage

theorem loadPredicate_none : loadPredicate files none = .ok (.const true) :=
  rfl

theorem loadPredicate_some {path : String} :
    loadPredicate files (some path) =
    Filter.load files path >>= fun f => f.compile.mapError .filterInvalid := by
  cases h : Filter.load files path <;> simp [loadPredicate, h, compileFilter] <;> rfl

theorem loadPredicate_some_eq_ok_iff {path : String} {p : Predicate} :
    loadPredicate files (some path) = .ok p ↔
    ∃ f, files.Reads path Filter.read? f ∧ f.compile = .ok p := by
  simp only [loadPredicate_some, bind_eq_ok_iff, mapError_eq_ok_iff, Filter.load,
    Files.load_eq_ok_iff]

theorem wanted_iff_loadPredicate {wanted : Tags → Prop} :
    Wanted files filterPath wanted ↔
    ∃ p, loadPredicate files filterPath = .ok p ∧ wanted = (p.accepts · = true) := by
  constructor
  case mp =>
    intro h
    cases h
    case all            => exact ⟨.const true, rfl, by simp [Predicate.accepts_const]⟩
    case filter f hf hv =>
      have ⟨p, hp⟩ := Filter.compile_eq_ok_iff.mpr hv
      have hw : f.Holds = (p.accepts · = true) := by ext; exact (Filter.accepts_compile hp).symm
      exact ⟨p, loadPredicate_some_eq_ok_iff.mpr ⟨f, hf, hp⟩, hw⟩
  case mpr =>
    rintro ⟨p, hp, rfl⟩
    cases filterPath
    case none =>
      rw [←Except.ok.inj hp]
      simpa [Predicate.accepts_const] using Wanted.all
    case some =>
      have ⟨f, hf, hp⟩ := loadPredicate_some_eq_ok_iff.mp hp
      have hw : (p.accepts · = true) = f.Holds := by ext; exact Filter.accepts_compile hp
      exact hw ▸ .filter hf (Filter.compile_eq_ok_iff.mp ⟨p, hp⟩)

theorem loadPredicate_eq_error_iff :
    loadPredicate files filterPath = .error failure ↔
    ∃ stage ∈ Stage.ofFilter, stage.Fails files catalogPath filterPath failure := by
  cases filterPath
  case none      => simp [loadPredicate_none, Stage.Fails, Stage.ofFilter]
  case some path =>
    rw [loadPredicate_some, bind_eq_error_iff, Filter.load, Files.load_eq_error_iff]
    simp [Files.load_eq_ok_iff, mapError_eq_error_iff, Filter.compile_eq_error_iff, Stage.Fails,
      Stage.ofFilter, or_assoc]

theorem exists_loadPredicate_eq_ok_iff :
    (∃ p, loadPredicate files filterPath = .ok p) ↔
    ∀ stage ∈ Stage.ofFilter, stage.Passes files catalogPath filterPath := by
  simp only [exists_eq_ok_iff, Ne, @loadPredicate_eq_error_iff files catalogPath, Stage.Passes]
  grind

theorem Catalog.load_eq_error_iff :
    Catalog.load files catalogPath = .error failure ↔
    ∃ stage ∈ Stage.ofCatalog, stage.Fails files catalogPath filterPath failure := by
  simp [Catalog.load, Files.load_eq_error_iff, Stage.Fails, Stage.ofCatalog]

theorem selectJournals_eq_ok_iff {names : List String} :
    selectJournals files catalogPath filterPath = .ok names ↔
    ∃ wanted catalog, Wanted files filterPath wanted ∧
      files.Reads catalogPath Catalog.read? catalog ∧ names = catalog.names wanted := by
  have hn {catalog : Catalog} {p : Predicate} :
      catalog.names (p.accepts · = true) = (catalog.select p).map Journal.name := by
    simp [Catalog.names, Catalog.select]
  simp only [selectJournals, bind_eq_ok_iff, pure_eq_ok_iff, Catalog.load, Files.load_eq_ok_iff,
    wanted_iff_loadPredicate]
  constructor
  case mp  => rintro ⟨p, hp, catalog, hc, rfl⟩; exact ⟨_, catalog, ⟨p, hp, rfl⟩, hc, hn.symm⟩
  case mpr => rintro ⟨_, catalog, ⟨p, hp, rfl⟩, hc, rfl⟩; exact ⟨p, hp, catalog, hc, hn⟩

theorem selectJournals_eq_error_iff :
    selectJournals files catalogPath filterPath = .error failure ↔
    Stage.FirstFails files catalogPath filterPath failure Stage.inOrder := by
  rw [Stage.inOrder, Stage.firstFails_append_iff, ←exists_loadPredicate_eq_ok_iff]
  rw [Stage.firstFails_iff_of_pairwise Stage.ofFilter_pairwise, ←loadPredicate_eq_error_iff]
  rw [Stage.firstFails_iff_of_pairwise Stage.ofCatalog_pairwise, ←Catalog.load_eq_error_iff]
  rw [selectJournals, bind_eq_error_iff]
  simp only [bind_pure_eq_error_iff, exists_and_right]

theorem selectJournals_eq_error_of_filter {stage : Stage} (hs : stage ∈ Stage.ofFilter)
    (hf : stage.Fails files catalogPath filterPath failure) :
    selectJournals files catalogPath filterPath = .error failure := by
  rw [selectJournals, bind_eq_error_iff]
  exact .inl <| loadPredicate_eq_error_iff.mpr ⟨stage, hs, hf⟩

-- The third part says that what is wrong with the filter is reported whatever the catalog is. The last
-- two say what is written.
theorem selectJournals_names_or_first_failure
    (files : Files) (catalogPath : String) (filterPath : Option String) :
    (∀ names, selectJournals files catalogPath filterPath = .ok names ↔
      ∃ wanted catalog, Wanted files filterPath wanted ∧
        files.Reads catalogPath Catalog.read? catalog ∧ names = catalog.names wanted) ∧
    (∀ failure, selectJournals files catalogPath filterPath = .error failure ↔
      Stage.FirstFails files catalogPath filterPath failure Stage.inOrder) ∧
    (∀ failure, ∀ stage ∈ Stage.ofFilter, stage.Fails files catalogPath filterPath failure →
      selectJournals files catalogPath filterPath = .error failure) ∧
    (∀ configFile output,
      ((Command.select catalogPath filterPath).run files configFile).outcome output =
      match selectJournals files catalogPath filterPath with
      | .ok names      => (.ok (), output ++ lines names)
      | .error failure => (.error failure, output)) ∧
    (∀ (command : Command) configFile output failure written,
      (command.run files configFile).outcome output = (.error failure, written) →
      written = output) := by
  refine ⟨?names, ?failure, ?filter, ?select, ?command⟩
  case names   => exact fun _ => selectJournals_eq_ok_iff
  case failure => exact fun _ => selectJournals_eq_error_iff
  case filter  => exact fun _ _ => selectJournals_eq_error_of_filter
  case select  => exact fun _ _ => Command.outcome_select
  case command => exact fun _ _ _ _ _ => Command.output_eq_of_outcome_error

-- x = "" selects what has no tags, and [a- is no pattern.
theorem selectJournals_names_or_first_failure_untagged_journals :
    let files := Files.ofFolder [
      ("catalog", "journals:\n- name: a\n- name: b\n  tags:\n    x: y\n- name: a\n".toUTF8),
      ("filter", "or:\n- and:\n  - cond: [x, '=', '']\n".toUTF8),
      ("broken", "or:\n- and:\n  - cond: [x, like, '[a-']\n".toUTF8)]
    let failure := Failure.filterInvalid (.invalidPattern "x" "[a-" .unterminatedClass)
    (∃ wanted catalog, Wanted files (some "filter") wanted ∧
      files.Reads "catalog" Catalog.read? catalog ∧ ["a", "a"] = catalog.names wanted) ∧
    Stage.FirstFails files "missing" (some "broken") failure Stage.inOrder := by
  intro files failure
  have hn : selectJournals files "catalog" (some "filter") = .ok ["a", "a"] :=
    toOption_eq_some_iff.mp (by decide +kernel)
  have hf : selectJournals files "missing" (some "broken") = .error failure :=
    fault?_eq_some_iff.mp (by decide +kernel)
  constructor
  case left  => exact (selectJournals_names_or_first_failure files _ _).left _ |>.mp hn
  case right => exact (selectJournals_names_or_first_failure files _ _).right.left _ |>.mp hf

end JournalSelect
