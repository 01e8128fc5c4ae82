import Mathlib.Data.List.Pairwise
import SearchQuery.Proofs.Files.Components

/-!
# The directories above a path

A directory lies above a path if its parts come first in the path, whatever way both are written
(`Path.LeadsTo`).  The directories that are met going up from a path, one parent after the other,
are just these (`Path.leadsTo_of_mem_ancestors`, `Path.exists_mem_ancestors`), and each of them lies
above those met before it (`Path.pairwise_leadsTo_ancestors`).

No two of them are the same, also if they are written differently: a directory has fewer parts than
what is in it.  The one exception is a dot, which has no parts and whose directory is the empty
path; so depth counts a part twice and the beginning of the path once (`Path.depth`).
-/

namespace SearchQuery

namespace Path

/-- The directory is the path or lies above it: both begin in the same way, and the parts of the
directory are the first ones of the path.  The empty path lies above all relative ones. -/
def LeadsTo (directory path : Path) : Prop :=
  directory.components.1 = path.components.1 ∧ directory.components.2 <+: path.components.2 ∨
    directory.components = ([], []) ∧ path.components.1 ≠ ['/']

/-- How deep the path leads: parts count twice, and its beginning once. -/
def depth (path : Path) : Nat :=
  2 * path.components.2.length + path.components.1.length

variable {path other directory upper : Path}

/-! ## Lying above -/

/-- A path leads to itself. -/
lemma LeadsTo.refl (path : Path) : path.LeadsTo path :=
  Or.inl ⟨rfl, List.prefix_rfl⟩

/-- What lies above a directory lies above all that the directory leads to. -/
lemma LeadsTo.trans (h : upper.LeadsTo directory) (h' : directory.LeadsTo path) :
    upper.LeadsTo path := by
  rcases h with ⟨hstart, hparts⟩ | ⟨hempty, hrelative⟩
  · rcases h' with ⟨hstart', hparts'⟩ | ⟨hempty', hrelative'⟩
    · exact Or.inl ⟨hstart.trans hstart', hparts.trans hparts'⟩
    · rw [hempty'] at hstart hparts
      exact Or.inr ⟨Prod.ext hstart (List.prefix_nil.mp hparts), hrelative'⟩
  · rcases h' with ⟨hstart', -⟩ | ⟨-, hrelative'⟩
    · exact Or.inr ⟨hempty, hstart' ▸ hrelative⟩
    · exact Or.inr ⟨hempty, hrelative'⟩

/-- Lying above does not depend on the way a directory is written. -/
lemma LeadsTo.congr_left (h : directory.LeadsTo path)
    (hsame : upper.components = directory.components) : upper.LeadsTo path := by
  rwa [LeadsTo, hsame]

/-- The directory of a path lies above it. -/
lemma leadsTo_of_parent? (h : path.parent? = some directory) : directory.LeadsTo path := by
  rcases components_of_parent? h with ⟨hdot, hempty⟩ | ⟨part, hpath⟩
  · exact Or.inr ⟨hempty, by rw [hdot]; decide⟩
  · rw [LeadsTo, hpath]
    exact Or.inl ⟨rfl, List.prefix_append _ _⟩

/-- What lies above a path is the path, or lies above its directory. -/
lemma LeadsTo.components_eq_or (h : upper.LeadsTo path) (hparent : path.parent? = some directory) :
    upper.components = path.components ∨ upper.LeadsTo directory := by
  rcases components_of_parent? hparent with ⟨hdot, hempty⟩ | ⟨part, hpath⟩
  · rw [LeadsTo, hdot] at h
    rw [hdot]
    rcases h with ⟨hlead, hparts⟩ | ⟨hnothing, -⟩
    · exact Or.inl (Prod.ext hlead (List.prefix_nil.mp hparts))
    · exact Or.inr ((LeadsTo.refl directory).congr_left (hnothing.trans hempty.symm))
  · rw [LeadsTo, hpath] at h
    rw [hpath]
    rcases h with ⟨hlead, hparts⟩ | ⟨hnothing, hrelative⟩
    · rcases List.prefix_concat_iff.mp hparts with hall | hfewer
      · exact Or.inl (Prod.ext hlead hall)
      · exact Or.inr (Or.inl ⟨hlead, hfewer⟩)
    · exact Or.inr (Or.inr ⟨hnothing, hrelative⟩)

/-- What lies above a path that has no directory is that path. -/
lemma LeadsTo.components_eq (h : upper.LeadsTo path) (hparent : path.parent? = none) :
    upper.components = path.components := by
  rcases components_of_parent?_eq_none hparent with hempty | hslash
  · rw [LeadsTo, hempty] at h
    rw [hempty]
    rcases h with ⟨hlead, hparts⟩ | ⟨hnothing, -⟩
    · exact Prod.ext hlead (List.prefix_nil.mp hparts)
    · exact hnothing
  · rw [LeadsTo, hslash] at h
    rw [hslash]
    rcases h with ⟨hlead, hparts⟩ | ⟨-, hrelative⟩
    · exact Prod.ext hlead (List.prefix_nil.mp hparts)
    · exact absurd rfl hrelative

/-! ## Going up -/

/-- All that is met going up from a path lies above it. -/
lemma leadsTo_of_mem_ancestors (h : directory ∈ path.ancestors) : directory.LeadsTo path := by
  fun_induction ancestors path with
  | case1 path hnone =>
    obtain rfl := List.mem_singleton.mp h
    exact .refl _
  | case2 path parent hparent ih =>
    rcases List.mem_cons.mp h with rfl | h
    · exact .refl _
    · exact (ih h).trans (leadsTo_of_parent? hparent)

/-- All that lies above a path is met going up from it. -/
lemma exists_mem_ancestors (h : directory.LeadsTo path) :
    ∃ upper ∈ path.ancestors, upper.components = directory.components := by
  fun_induction ancestors path with
  | case1 path hnone => exact ⟨path, List.mem_singleton_self path, (h.components_eq hnone).symm⟩
  | case2 path parent hparent ih =>
    rcases h.components_eq_or hparent with hself | habove
    · exact ⟨path, List.mem_cons_self, hself.symm⟩
    · obtain ⟨upper, hupper, hsame⟩ := ih habove
      exact ⟨upper, List.mem_cons_of_mem _ hupper, hsame⟩

/-- What is met later going up from a path lies above what is met earlier. -/
lemma pairwise_leadsTo_ancestors (path : Path) :
    path.ancestors.Pairwise fun nearer farther => farther.LeadsTo nearer := by
  fun_induction ancestors path with
  | case1 path hnone => exact List.pairwise_singleton _ _
  | case2 path parent hparent ih =>
    refine List.pairwise_cons.mpr ⟨?_, ih⟩
    intro directory hdirectory
    exact (leadsTo_of_mem_ancestors hdirectory).trans (leadsTo_of_parent? hparent)

/-! ## Depth -/

/-- Paths that are the same lead equally deep. -/
lemma depth_eq_of_same (h : path.same other = true) : path.depth = other.depth := by
  rw [depth, depth, same_iff_components_eq.mp h]

/-- What lies above a path is no deeper. -/
lemma LeadsTo.depth_le (h : directory.LeadsTo path) : directory.depth ≤ path.depth := by
  rw [depth, depth]
  rcases h with ⟨hstart, hparts⟩ | ⟨hempty, -⟩
  · rw [hstart]
    have hlength := hparts.length_le
    omega
  · rw [hempty]
    exact Nat.zero_le _

/-- The directory of a path is less deep. -/
lemma depth_parent?_lt (h : path.parent? = some directory) : directory.depth < path.depth := by
  rcases components_of_parent? h with ⟨hdot, hempty⟩ | ⟨part, hpath⟩
  · rw [depth, depth, hdot, hempty]
    decide
  · simp only [depth, hpath, List.length_append, List.length_singleton]
    omega

/-- The directories above a path are less and less deep. -/
lemma pairwise_ancestors (path : Path) :
    path.ancestors.Pairwise fun nearer farther => farther.depth < nearer.depth := by
  fun_induction ancestors path with
  | case1 path hnone => exact List.pairwise_singleton _ _
  | case2 path parent hparent ih =>
    refine List.pairwise_cons.mpr ⟨?_, ih⟩
    intro directory hdirectory
    exact (leadsTo_of_mem_ancestors hdirectory).depth_le.trans_lt (depth_parent?_lt hparent)

/-- A settings file is one part deeper than its directory. -/
lemma depth_settingsFile (directory : Path) :
    directory.settingsFile.depth = directory.depth + 2 := by
  simp only [depth, components_settingsFile, List.length_append, List.length_singleton]
  omega

/-- The settings files of the directories above a path are all different, whatever way they are
written. -/
lemma pairwise_settingsFile (path : Path) :
    (path.ancestors.map settingsFile).Pairwise
      fun nearer farther => farther.depth < nearer.depth := by
  rw [List.pairwise_map]
  refine (pairwise_ancestors path).imp ?_
  intro nearer farther h
  rw [depth_settingsFile, depth_settingsFile]
  omega

end Path

end SearchQuery
