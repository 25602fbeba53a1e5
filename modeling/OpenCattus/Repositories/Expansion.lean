import OpenCattus.Foundations.Closure
import OpenCattus.Foundations.KeyFile

/-!
# Dependencies between repositories

`expandSelectedRepositoryIds` adds to the selected repositories the ones that they need. The table
of the dependencies is a parameter of `expandRepositoryIds`.

`repository_expansion_closure` says that this is the closure of the selection, for every table.
-/

namespace OpenCattus

open Foundations

/-- `append` of `expandSelectedRepositoryIds`; the ids that were seen are those of the list. A
call inside a call is for a dependency of another key, so the depth is bounded by the table. -/
def appendRepositoryId (dependencies : List (String × List String)) :
    Nat → List String → String → List String
  | 0, expanded, _ => expanded
  | depth + 1, expanded, repoId =>
    if repoId ∈ expanded then expanded
    else
      ((Assoc.get repoId dependencies).getD []).foldl (appendRepositoryId dependencies depth)
        (expanded ++ [repoId])

/-- The ids with all of their dependencies. -/
def expandRepositoryIds (dependencies : List (String × List String)) (ids : List String) :
    List String :=
  ids.foldl (appendRepositoryId dependencies (dependencies.length + 1)) []

def repositoryDependencies : List (String × List String) :=
  [("beegfs", ["grafana", "influxdata"])]

def expandSelectedRepositoryIds (repositoryIds : List String) : List String :=
  expandRepositoryIds repositoryDependencies repositoryIds

/-! ## The walk over the table -/

/-- What an id leads to. -/
def dependenciesOf (dependencies : List (String × List String)) (repoId : String) : List String :=
  (Assoc.get repoId dependencies).getD []

theorem appendRepositoryId_eq (dependencies : List (String × List String)) (depth : Nat) :
    appendRepositoryId dependencies depth = visit (dependenciesOf dependencies) depth := by
  induction depth with
  | zero => rfl
  | succ depth ih =>
    funext expanded repoId
    rw [appendRepositoryId, visit, ih]
    rfl

theorem dependenciesOf_eq_nil {dependencies : List (String × List String)} {repoId : String}
    (h : repoId ∉ dependencies.map Prod.fst) : dependenciesOf dependencies repoId = [] := by
  rw [← Assoc.isSome_get_iff, Option.not_isSome_iff_eq_none] at h
  rw [dependenciesOf, h]
  rfl

/-- The calls of `append` end, in less calls inside each other than the table has keys and one. -/
theorem visits_expandRepositoryIds (dependencies : List (String × List String))
    (ids : List String) :
    Visits (dependenciesOf dependencies) [] ids (expandRepositoryIds dependencies ids) := by
  have hdepth : unseen (dependencies.map Prod.fst) [] < dependencies.length + 1 := by
    have hle := unseen_le (dependencies.map Prod.fst) []
    rw [List.length_map] at hle
    omega
  unfold expandRepositoryIds
  rw [appendRepositoryId_eq]
  exact visits_foldl (fun _ => dependenciesOf_eq_nil) _ _ _ hdepth

theorem depthFirst_expandRepositoryIds (dependencies : List (String × List String))
    (ids : List String) :
    DepthFirst (dependenciesOf dependencies) ids [] (expandRepositoryIds dependencies ids) := by
  have hwalk := (visits_expandRepositoryIds dependencies ids).depthFirst (.done _)
  rwa [List.append_nil] at hwalk

/-! ## The closure -/

/-- The calls end with the result, which is the closure of the ids, in the order of the first
visits of the walk that goes deep first. -/
structure IsExpansion (dependencies : List (String × List String)) (ids result : List String) :
    Prop where
  finished : Visits (dependenciesOf dependencies) [] ids result
  closure : IsClosure (dependenciesOf dependencies) ids result
  order : DepthFirst (dependenciesOf dependencies) ids [] result

theorem isExpansion_expandRepositoryIds (dependencies : List (String × List String))
    (ids : List String) :
    IsExpansion dependencies ids (expandRepositoryIds dependencies ids) where
  finished := visits_expandRepositoryIds dependencies ids
  closure := (depthFirst_expandRepositoryIds dependencies ids).isClosure
  order := depthFirst_expandRepositoryIds dependencies ids

theorem expandRepositoryIds_idem (dependencies : List (String × List String))
    (ids : List String) :
    expandRepositoryIds dependencies (expandRepositoryIds dependencies ids) =
      expandRepositoryIds dependencies ids := by
  have hself := (depthFirst_expandRepositoryIds dependencies ids).again_self
  exact (depthFirst_expandRepositoryIds dependencies _).deterministic hself

/-- The selection with its dependencies is a closure, which a second expansion leaves as it is;
this holds for the table of the installer and for every other one. -/
theorem repository_expansion_closure :
    (∀ ids, IsExpansion repositoryDependencies ids (expandSelectedRepositoryIds ids) ∧
      expandSelectedRepositoryIds (expandSelectedRepositoryIds ids) =
        expandSelectedRepositoryIds ids) ∧
    ∀ dependencies ids, IsExpansion dependencies ids (expandRepositoryIds dependencies ids) ∧
      expandRepositoryIds dependencies (expandRepositoryIds dependencies ids) =
        expandRepositoryIds dependencies ids := by
  have hexpansion : ∀ dependencies ids,
      IsExpansion dependencies ids (expandRepositoryIds dependencies ids) ∧
        expandRepositoryIds dependencies (expandRepositoryIds dependencies ids) =
          expandRepositoryIds dependencies ids :=
    fun dependencies ids =>
      ⟨isExpansion_expandRepositoryIds dependencies ids, expandRepositoryIds_idem dependencies ids⟩
  exact ⟨hexpansion repositoryDependencies, hexpansion⟩

/-- A table with a cycle. -/
example : expandRepositoryIds [("cuda", ["nvhpc"]), ("nvhpc", ["zfs", "cuda"])]
    ["nvhpc", "grafana", "cuda"] = ["nvhpc", "zfs", "cuda", "grafana"] := by
  decide

end OpenCattus
