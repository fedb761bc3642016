import Mathlib.Data.List.Basic
import StorageHandler.Ship.Artifact

/-!
# Artifacts and the code in them

The artifact of a class should carry the file of its module : be that file, or a directory that it
is in (`Path.Carries`). For a module in a package the directory of the package is taken, and the
file of the module is not looked at. A package can be searched in several directories, and the one
that is taken may be another than that of the module (`Astray`).

Exactly then the artifact does not carry the code (`artifact_carries_iff`), as with a package in two
directories and a module in the second (`artifact_not_carries_splitPackage`). A package that is
searched in one directory, where its own file is if it has one, leads no module astray
(`ComesFrom.not_astray_of_single`).
-/

namespace StorageHandler

namespace Path

/-- A path is in a directory : it has the names of the directory, and more. -/
def IsIn (p directory : Path) : Prop :=
  p.root = directory.root ∧ directory.names <+: p.names ∧ directory.names ≠ p.names

/-- A path carries a file : it is that file, or a directory that the file is in. -/
def Carries (p file : Path) : Prop := p = file ∨ file.IsIn p

instance (p directory : Path) : Decidable (p.IsIn directory) :=
  inferInstanceAs (Decidable (_ ∧ _ ∧ _))

instance (p file : Path) : Decidable (p.Carries file) := inferInstanceAs (Decidable (_ ∨ _))

end Path

section Origin

variable {t : ModuleTable} {c : ClassName} {file : String} {package : LoadedModule}
  {directories : List String}

/-- The package at the top of the module of a class is searched in the directories. -/
def InPackage (t : ModuleTable) (c : ClassName) (package : LoadedModule)
    (directories : List String) : Prop :=
  t.get? (ModuleTable.topLevel c.moduleName) = some package ∧
    package.directories = some directories

/-- The module of a class comes from a file, which is in a directory of its package if it has
one. -/
structure ComesFrom (t : ModuleTable) (c : ClassName) (file : String) : Prop where
  loaded : ∃ m, t.get? c.moduleName = some m ∧ m.archive = none ∧ m.file? = some file
  placed : ∀ package directories, InPackage t c package directories →
    ∃ d ∈ directories, (Path.ofString file).IsIn (.ofString d)

/-- The directory that is taken for the package of a class is not that of the module. -/
inductive Astray (t : ModuleTable) (c : ClassName) (file : Path) : Prop
  /-- The package has a file of its own, and the module is in a directory of the package, not in
  that of its file. -/
  | apart (package : LoadedModule) (directories : List String) (own : String)
    (found : InPackage t c package directories) (file? : package.file? = some own)
    (there : ∃ d ∈ directories, file.IsIn (.ofString d))
    (missed : ¬(Path.ofString own).parent.Carries file) : Astray t c file
  /-- The package has no file of its own, and the module is in a later directory, not in the
  first. -/
  | later (package : LoadedModule) (first : String) (others : List String)
    (found : InPackage t c package (first :: others)) (file? : package.file? = none)
    (there : ∃ d ∈ others, file.IsIn (.ofString d))
    (missed : ¬(Path.ofString first).Carries file) : Astray t c file

/-! ## The directory of a package -/

theorem InPackage.unique {package' : LoadedModule} {directories' : List String}
    (h : InPackage t c package directories) (h' : InPackage t c package' directories') :
    package = package' ∧ directories = directories' := by
  obtain rfl := Option.some.inj (h.1.symm.trans h'.1)
  exact ⟨rfl, Option.some.inj (h.2.symm.trans h'.2)⟩

theorem packageDirectory?_of_file {own : String} (h : package.file? = some own) :
    package.packageDirectory? directories = some (Path.ofString own).parent := by
  rw [LoadedModule.packageDirectory?, h]

theorem packageDirectory?_cons (h : package.file? = none) (first : String) (others : List String) :
    package.packageDirectory? (first :: others) = some (Path.ofString first) := by
  rw [LoadedModule.packageDirectory?, h]
  rfl

namespace ComesFrom

/-- A class in a package comes from a file of its module in one of the directories. -/
theorem of_inPackage {m : LoadedModule} (hm : t.get? c.moduleName = some m)
    (harchive : m.archive = none) (hfile : m.file? = some file)
    (hp : InPackage t c package directories)
    (hplaced : ∃ d ∈ directories, (Path.ofString file).IsIn (.ofString d)) :
    ComesFrom t c file := by
  refine ⟨⟨m, hm, harchive, hfile⟩, fun package' directories' hp' => ?_⟩
  obtain ⟨-, rfl⟩ := hp.unique hp'
  exact hplaced

theorem artifact?_of_inPackage (h : ComesFrom t c file) (hp : InPackage t c package directories) :
    t.artifact? c = package.packageDirectory? directories := by
  obtain ⟨m, hm, harchive, -⟩ := h.loaded
  simp only [ModuleTable.artifact?, hm, harchive, hp.1, hp.2, Option.bind_eq_bind, Option.bind_some]

/-- A module in no package is its own artifact. -/
theorem artifact?_of_noPackage (h : ComesFrom t c file)
    (hnone : ∀ package directories, ¬InPackage t c package directories) :
    t.artifact? c = some (.ofString file) := by
  obtain ⟨m, hm, harchive, hfile⟩ := h.loaded
  simp only [ModuleTable.artifact?, hm, harchive, Option.bind_eq_bind, Option.bind_some]
  cases htop : t.get? (ModuleTable.topLevel c.moduleName) with
  | none => simp [hfile]
  | some top =>
    cases hdirectories : top.directories with
    | none => simp [hdirectories, hfile]
    | some directories => exact absurd ⟨htop, hdirectories⟩ (hnone top directories)

end ComesFrom

/-! ## Modules that are missed -/

/-- A package with a file of its own misses what is not in the directory of that. -/
theorem ComesFrom.astray_iff_of_file {own : String} (h : ComesFrom t c file)
    (hp : InPackage t c package directories) (hown : package.file? = some own) :
    Astray t c (.ofString file) ↔ ¬(Path.ofString own).parent.Carries (.ofString file) := by
  constructor
  · rintro (⟨package', _, own', found, hown', -, missed⟩ | ⟨package', _, _, found, hnone, -, -⟩)
    · obtain ⟨rfl, -⟩ := hp.unique found
      obtain rfl := Option.some.inj (hown.symm.trans hown')
      exact missed
    · obtain ⟨rfl, -⟩ := hp.unique found
      rw [hown] at hnone
      cases hnone
  · exact .apart package directories own hp hown (h.placed package directories hp)

/-- A package without a file of its own misses what is not in its first directory. -/
theorem ComesFrom.astray_iff_of_noFile {first : String} {others : List String}
    (h : ComesFrom t c file) (hp : InPackage t c package (first :: others))
    (hnone : package.file? = none) :
    Astray t c (.ofString file) ↔ ¬(Path.ofString first).Carries (.ofString file) := by
  constructor
  · rintro (⟨package', _, own', found, hown', -, -⟩ | ⟨package', _, _, found, -, -, missed⟩)
    · obtain ⟨rfl, -⟩ := hp.unique found
      rw [hnone] at hown'
      cases hown'
    · obtain ⟨-, hdirectories⟩ := hp.unique found
      obtain ⟨rfl, -⟩ := List.cons.inj hdirectories
      exact missed
  · intro missed
    obtain ⟨d, hd, hin⟩ := h.placed package (first :: others) hp
    rcases List.mem_cons.1 hd with rfl | hd
    · exact absurd (Or.inr hin) missed
    · exact .later package first others hp hnone ⟨d, hd, hin⟩ missed

/-- A package that is searched in one directory, that of its own file if it has one, misses
nothing. -/
theorem ComesFrom.not_astray_of_single {d : String} (h : ComesFrom t c file)
    (hp : InPackage t c package [d])
    (hown : ∀ own, package.file? = some own → (Path.ofString own).parent = .ofString d) :
    ¬Astray t c (.ofString file) := by
  have hcarries : (Path.ofString d).Carries (.ofString file) := by
    obtain ⟨d', hd', hin⟩ := h.placed package [d] hp
    rw [List.mem_singleton.1 hd'] at hin
    exact Or.inr hin
  cases hfile : package.file? with
  | none => rwa [h.astray_iff_of_noFile hp hfile, not_not]
  | some own => rwa [h.astray_iff_of_file hp hfile, hown own hfile, not_not]

/-! ## What artifacts carry -/

theorem ComesFrom.exists_artifact (h : ComesFrom t c file) :
    ∃ p, t.artifact? c = some p ∧
      (p.Carries (.ofString file) ↔ ¬Astray t c (.ofString file)) := by
  by_cases hpackage : ∃ package directories, InPackage t c package directories
  · obtain ⟨package, directories, hp⟩ := hpackage
    rw [h.artifact?_of_inPackage hp]
    cases hfile : package.file? with
    | some own =>
      refine ⟨_, packageDirectory?_of_file hfile, ?_⟩
      rw [h.astray_iff_of_file hp hfile, not_not]
    | none =>
      obtain ⟨d, hd, -⟩ := h.placed package directories hp
      obtain ⟨first, others, rfl⟩ := List.exists_cons_of_ne_nil (List.ne_nil_of_mem hd)
      refine ⟨_, packageDirectory?_cons hfile first others, ?_⟩
      rw [h.astray_iff_of_noFile hp hfile, not_not]
  · have hnone : ∀ package directories, ¬InPackage t c package directories :=
      fun package directories hp => hpackage ⟨package, directories, hp⟩
    refine ⟨_, h.artifact?_of_noPackage hnone, iff_of_true (Or.inl rfl) ?_⟩
    rintro (⟨package, directories, _, found, -, -, -⟩ | ⟨package, first, others, found, -, -, -⟩)
    · exact hnone _ _ found
    · exact hnone _ _ found

/-- A class whose module comes from a file has an artifact, and the artifact carries that file
unless another directory of the package was taken. That cannot be if the package is searched in one
directory, that of its own file if it has one. -/
theorem artifact_carries_iff (h : ComesFrom t c file) :
    (∃ p, t.artifact? c = some p ∧
      (p.Carries (.ofString file) ↔ ¬Astray t c (.ofString file))) ∧
    ∀ package d, InPackage t c package [d] →
      (∀ own, package.file? = some own → (Path.ofString own).parent = .ofString d) →
      ¬Astray t c (.ofString file) :=
  ⟨h.exists_artifact, fun _ _ hp hown => h.not_astray_of_single hp hown⟩

end Origin

/-- A module two levels down in a package, which is searched in the directory of its own file. -/
def nestedModules : ModuleTable :=
  [⟨"pkg", some "/lib/pkg/__init__.py", some ["/lib/./pkg/"], none⟩,
    ⟨"pkg.sub", some "/lib/pkg/sub/__init__.py", some ["/lib/pkg/sub"], none⟩,
    ⟨"pkg.sub.mod", some "/lib/pkg/sub/mod.py", none, none⟩]

theorem artifact_carries_nestedModules :
    let c : ClassName := ⟨"pkg.sub.mod", "Job"⟩
    ComesFrom nestedModules c "/lib/pkg/sub/mod.py" ∧
      ∃ p, nestedModules.artifact? c = some p ∧ p.Carries (.ofString "/lib/pkg/sub/mod.py") := by
  intro c
  have hp : InPackage nestedModules c
      ⟨"pkg", some "/lib/pkg/__init__.py", some ["/lib/./pkg/"], none⟩ ["/lib/./pkg/"] :=
    ⟨by decide, rfl⟩
  have hc : ComesFrom nestedModules c "/lib/pkg/sub/mod.py" :=
    .of_inPackage (m := ⟨"pkg.sub.mod", some "/lib/pkg/sub/mod.py", none, none⟩) (by decide) rfl
      (by decide) hp ⟨_, List.mem_singleton_self _, by decide⟩
  obtain ⟨⟨p, hartifact, hcarries⟩, hsingle⟩ := artifact_carries_iff hc
  refine ⟨hc, p, hartifact, hcarries.2 (hsingle _ _ hp fun own hown => ?_)⟩
  obtain rfl : "/lib/pkg/__init__.py" = own := Option.some.inj (.trans (by decide) hown)
  decide

/-- A package without a file of its own in two directories, and a module in the second. -/
def splitPackage : ModuleTable :=
  [⟨"ns", none, some ["/a/ns", "/b/ns"], none⟩, ⟨"ns.mod", some "/b/ns/mod.py", none, none⟩]

/-- The artifact of a class in the second directory of a package is the first directory. -/
theorem artifact_not_carries_splitPackage :
    let c : ClassName := ⟨"ns.mod", "Job"⟩
    ComesFrom splitPackage c "/b/ns/mod.py" ∧
      splitPackage.artifact? c = some (.ofString "/a/ns") ∧
      ¬(Path.ofString "/a/ns").Carries (.ofString "/b/ns/mod.py") := by
  intro c
  have hp : InPackage splitPackage c ⟨"ns", none, some ["/a/ns", "/b/ns"], none⟩
      ["/a/ns", "/b/ns"] := ⟨by decide, rfl⟩
  have hc : ComesFrom splitPackage c "/b/ns/mod.py" :=
    .of_inPackage (m := ⟨"ns.mod", some "/b/ns/mod.py", none, none⟩) (by decide) rfl (by decide) hp
      ⟨"/b/ns", by decide, by decide⟩
  exact ⟨hc, by decide, by decide⟩

end StorageHandler
