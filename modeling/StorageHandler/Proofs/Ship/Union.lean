import Mathlib.Data.List.ReduceOption
import StorageHandler.Proofs.Conf.ListValue
import StorageHandler.Proofs.Files.Resolve
import StorageHandler.Proofs.Files.Uri
import StorageHandler.Proofs.OrderedMap
import StorageHandler.Ship.Shipment

/-!
# The ship-list as a union

Shipping classes makes the ship-list the entries that it had and the URIs of the artifacts, each
once, in this order (`ship_isUnion`). The list is written with commas and read back as it is, since
neither the old entries nor URIs have any (`strings_insertStrings`). An artifact is named by the
place where its path leads, so a class whose artifact is there is never refused
(`artifactUri_of_resolvesTo`).
-/

namespace StorageHandler

/-! ## First occurrences -/

theorem distinct_eq_eraseDups (items : List String) : distinct items = items.eraseDups := by
  induction items using List.reverseRecOn with
  | nil => rfl
  | append_singleton items item ih =>
    have hstep : distinct (items ++ [item]) =
        if item ∈ distinct items then distinct items else distinct items ++ [item] := by
      rw [distinct, List.foldl_append]
      rfl
    rw [hstep, ih, eraseDups_append_singleton]
    simp only [List.mem_eraseDups]

/-- What the second list adds to the first occurrences of the first. -/
theorem drop_eraseDups_append (as bs : List String) :
    ((as ++ bs).eraseDups).drop as.eraseDups.length = (bs.filter (· ∉ as)).eraseDups := by
  have hremove : bs.removeAll as = bs.filter (· ∉ as) := by
    refine List.filter_congr fun b _ => ?_
    simp
  rw [List.eraseDups_append, List.drop_left, hremove]

/-! ## Artifacts -/

section Artifacts

variable {fs : FileSystem} {t : ModuleTable} {c : ClassName} {place : Path}

/-- A class has an artifact, and there is something at its path. -/
def ArtifactThere (fs : FileSystem) (t : ModuleTable) (c : ClassName) : Prop :=
  ∃ p, t.artifact? c = some p ∧ fs.isThere p = .ok true

/-- The path of the artifact of a class leads to `place`, and is resolved to it. -/
def ResolvesTo (fs : FileSystem) (t : ModuleTable) (c : ClassName) (place : Path) : Prop :=
  ∃ p e, t.artifact? c = some p ∧ fs.find p = .ok (place.names, e) ∧ fs.resolve p = some place

theorem ArtifactThere.exists_resolvesTo (hfs : fs.Settled fs.workingDirectory)
    (h : ArtifactThere fs t c) : ∃ place, ResolvesTo fs t c place := by
  obtain ⟨p, hp, hthere⟩ := h
  obtain ⟨⟨names, e⟩, hfind⟩ := FileSystem.exists_find_of_isThere hthere
  exact ⟨⟨"/", names⟩, p, e, hp, hfind, FileSystem.resolve_of_find hfs hfind⟩

theorem artifactUri_of_resolvesTo (h : ResolvesTo fs t c place) :
    artifactUri fs t c = .ok (Uri.ofPath place) := by
  obtain ⟨p, e, hp, hfind, hresolve⟩ := h
  have hthere : fs.isThere p = .ok true := by rw [FileSystem.isThere, hfind]
  unfold artifactUri
  simp only [hp, hthere, hresolve]
  rfl

theorem exists_places (hfs : fs.Settled fs.workingDirectory) {cs : List ClassName}
    (h : ∀ c ∈ cs, ArtifactThere fs t c) : ∃ places, List.Forall₂ (ResolvesTo fs t) cs places := by
  induction cs with
  | nil => exact ⟨[], .nil⟩
  | cons c cs ih =>
    obtain ⟨hc, hcs⟩ := List.forall_mem_cons.1 h
    obtain ⟨place, hplace⟩ := hc.exists_resolvesTo hfs
    obtain ⟨places, hplaces⟩ := ih hcs
    exact ⟨place :: places, .cons hplace hplaces⟩

/-- The URIs of artifacts are found class by class. -/
theorem mapM_artifactUri {cs : List ClassName} {places : List Path}
    (h : List.Forall₂ (ResolvesTo fs t) cs places) :
    cs.mapM (artifactUri fs t) = .ok (places.map Uri.ofPath) := by
  induction h with
  | nil => rfl
  | cons hplace _ ih =>
    rw [List.mapM_cons, artifactUri_of_resolvesTo hplace, ih]
    rfl

end Artifacts

/-! ## The shipment -/

/-- What shipping the artifacts at `uris` makes of the configuration `before`. -/
structure IsUnion (before : JobConf) (uris : List String) (s : Shipment) : Prop where
  /-- The list is the old entries and the URIs, each at its first occurrence. -/
  list : s.list = (before.strings shipKey ++ uris).eraseDups
  nodup : s.list.Nodup
  /-- The configuration holds the list. -/
  stored : s.conf.strings shipKey = s.list
  /-- An empty list is not written. -/
  untouched : s.list = [] → s.conf = before
  others : ∀ key, key ≠ shipKey → s.conf.find? key = before.find? key
  /-- The setting keeps its place, or comes last if it was not there. -/
  keys : s.list ≠ [] →
    s.conf.keys = if shipKey ∈ before.keys then before.keys else before.keys ++ [shipKey]
  /-- What is logged is what is new, if anything is. -/
  events : s.events =
    let new := (uris.filter (· ∉ before.strings shipKey)).eraseDups
    if new = [] then [] else [.artifactsAdded new]

/-- The shipment of the artifacts at `uris`. -/
def unionShipment (conf : JobConf) (uris : List String) : Shipment :=
  let list := (conf.strings shipKey ++ uris).eraseDups
  if list = [] then ⟨[], [], conf⟩
  else ⟨list, (uris.filter (· ∉ conf.strings shipKey)).eraseDups, conf.insertStrings shipKey list⟩

theorem ship_eq {fs : FileSystem} {t : ModuleTable} {classes : List (Option ClassName)}
    {uris : List String} (huris : classes.reduceOption.mapM (artifactUri fs t) = .ok uris)
    (conf : JobConf) : ship fs t conf classes = .ok (unionShipment conf uris) := by
  unfold List.reduceOption at huris
  unfold ship unionShipment
  rw [huris]
  simp only [Bind.bind, Except.bind, distinct_eq_eraseDups, eraseDups_eraseDups_append,
    drop_eraseDups_append]
  split_ifs <;> rfl

theorem isUnion_unionShipment (conf : JobConf) {uris : List String}
    (huris : ∀ u ∈ uris, Text.IsEntry u) : IsUnion conf uris (unionShipment conf uris) := by
  have hentries : ∀ e ∈ (conf.strings shipKey ++ uris).eraseDups, Text.IsEntry e := by
    intro e he
    rw [List.mem_eraseDups, List.mem_append] at he
    exact he.elim JobConf.isEntry_of_mem_strings (huris e)
  unfold unionShipment
  by_cases hlist : (conf.strings shipKey ++ uris).eraseDups = []
  · -- nothing was listed, and there is nothing to list
    have hnil : conf.strings shipKey = [] ∧ uris = [] := by
      refine List.append_eq_nil_iff.1 (List.eq_nil_iff_forall_not_mem.2 fun e he => ?_)
      rw [← List.mem_eraseDups, hlist] at he
      exact List.not_mem_nil he
    obtain ⟨hold, rfl⟩ := hnil
    simp only [hlist, if_true]
    exact ⟨hlist.symm, List.nodup_nil, hold, fun _ => rfl, fun _ _ => rfl,
      fun hne => absurd rfl hne, rfl⟩
  · simp only [hlist, if_false]
    refine ⟨rfl, nodup_eraseDups _, JobConf.strings_insertStrings conf shipKey hentries,
      fun hnil => absurd hnil hlist, fun key hkey => ?_, fun _ => ?_, rfl⟩
    · exact (conf.differsAt_insert shipKey _).others key hkey
    · exact (conf.differsAt_insert shipKey _).order

/-- Every class with an artifact that is there is shipped. -/
theorem ship_isUnion {fs : FileSystem} (hfs : fs.Settled fs.workingDirectory) {t : ModuleTable}
    {classes : List (Option ClassName)} (h : ∀ c, some c ∈ classes → ArtifactThere fs t c)
    (conf : JobConf) :
    ∃ places s, List.Forall₂ (ResolvesTo fs t) classes.reduceOption places ∧
      ship fs t conf classes = .ok s ∧ IsUnion conf (places.map Uri.ofPath) s := by
  have hclasses : ∀ c ∈ classes.reduceOption, ArtifactThere fs t c := fun c hc =>
    h c (List.reduceOption_mem_iff.1 hc)
  obtain ⟨places, hplaces⟩ := exists_places hfs hclasses
  have hentries : ∀ u ∈ places.map Uri.ofPath, Text.IsEntry u := by
    intro u hu
    obtain ⟨place, -, rfl⟩ := List.mem_map.1 hu
    exact Uri.isEntry_ofPath place
  exact ⟨places, _, hplaces, ship_eq (mapM_artifactUri hplaces) conf,
    isUnion_unionShipment conf hentries⟩

/-- A file whose name has a comma, a blank, a percent sign and an accent, behind a link. -/
def awkwardFiles : FileSystem where
  entries := [(["opt"], .directory), (["opt", "a, é%"], .file []), (["lib"], .link "opt")]
  workingDirectory := ["opt"]
  home := "/"
  homes := []

theorem settled_awkwardFiles : awkwardFiles.Settled awkwardFiles.workingDirectory :=
  FileSystem.Settled.nil.append_singleton (by decide) (by decide)

section Awkward

open FileSystem

variable (links : ℕ) (names : List String)

theorem walk_opt : awkwardFiles.walk true links [] ("opt" :: names) =
    awkwardFiles.walk true links ["opt"] names :=
  walk_down rfl (by decide) (by decide) (e := .directory) rfl (by simp)

theorem walk_lib : awkwardFiles.walk true (links + 1) [] ("lib" :: names) =
    awkwardFiles.walk true links ["opt"] names := by
  have hlink : awkwardFiles.entry? ["lib"] = some (.link "opt") := rfl
  have htarget : Text.split '/' "opt" = ["opt"] := by decide
  rw [walk_link rfl (by decide) (by decide) hlink, htarget]
  exact walk_opt links names

theorem walk_awkwardFile : awkwardFiles.walk true links ["opt"] ["a, é%"] =
    .ok (["opt", "a, é%"], .file []) := by
  have hfile : awkwardFiles.entry? ["opt", "a, é%"] = some (.file []) := rfl
  rw [walk_down rfl (by decide) (by decide) hfile (by simp)]
  exact walk_nil hfile

theorem walk_libTwice : awkwardFiles.walk true maxLinks [] ["lib", "..", "lib", "a, é%"] =
    .ok (["opt", "a, é%"], .file []) := by
  have hup : awkwardFiles.walk true 39 ["opt"] ["..", "lib", "a, é%"] =
      awkwardFiles.walk true 39 [] ["lib", "a, é%"] := walk_up rfl
  rw [maxLinks, walk_lib, hup, walk_lib, walk_awkwardFile]

theorem isThere_awkwardFiles :
    ∀ path ∈ ["/opt/a, é%", "/lib/a, é%", "/lib/../lib/a, é%", "/lib"],
      awkwardFiles.isThere (.ofString path) = .ok true := by
  simp only [List.forall_mem_cons]
  exact ⟨isThere_of_walk (by decide) (by decide) ((walk_opt _ _).trans (walk_awkwardFile _)),
    isThere_of_walk (by decide) (by decide) ((walk_lib _ _).trans (walk_awkwardFile _)),
    isThere_of_walk (by decide) (by decide) walk_libTwice,
    isThere_of_walk (by decide) (by decide) ((walk_lib _ _).trans (walk_nil rfl)),
    fun _ h => absurd h List.not_mem_nil⟩

end Awkward

theorem ship_isUnion_awkwardFiles :
    let c : ClassName := ⟨"tools", "Job"⟩
    let t : ModuleTable := [⟨"tools", none, none, some "/lib/a, é%"⟩]
    let conf : JobConf := .ofList [(shipKey, " b ,, b")]
    ∃ places s, List.Forall₂ (ResolvesTo awkwardFiles t) [c, c] places ∧
      ship awkwardFiles t conf [none, some c, some c] = .ok s ∧
      IsUnion conf (places.map Uri.ofPath) s := by
  intro c t conf
  have hc : ArtifactThere awkwardFiles t c :=
    ⟨Path.ofString "/lib/a, é%", by decide, isThere_awkwardFiles _ (by decide)⟩
  have hclasses : ∀ c', some c' ∈ [none, some c, some c] → ArtifactThere awkwardFiles t c' := by
    intro c' hc'
    have hmem : c' = c := by simpa using hc'
    exact hmem ▸ hc
  exact ship_isUnion settled_awkwardFiles hclasses conf

end StorageHandler
