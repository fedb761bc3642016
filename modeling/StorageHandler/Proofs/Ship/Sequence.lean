import StorageHandler.Proofs.Results
import StorageHandler.Proofs.Ship.Union

/-!
# Shipping several times

Shipping classes and then others comes to the same as shipping all of them at once (`ship_append`) :
between the calls the list is written with commas and read back as it was. Classes that were shipped
before change nothing (`unionShipment_of_subset`). The order of the classes is the order of what is
new, and makes no other difference (`reordered_of_perm`).

`ship_composes` says this of classes whose artifacts are found and can be shipped.
-/

namespace StorageHandler

variable {fs : FileSystem} {t : ModuleTable} {c : ClassName} {conf : JobConf} {us vs : List String}

/-! ## Unions in sequence -/

theorem JobConf.insertStrings_insertStrings (c : JobConf) (key : String)
    (items items' : List String) :
    (c.insertStrings key items).insertStrings key items' = c.insertStrings key items' :=
  OrderedMap.insert_insert c key _ _

theorem unionShipment_nil (h : conf.strings shipKey = []) :
    unionShipment conf [] = ⟨[], [], conf⟩ := by
  rw [unionShipment, h]
  rfl

theorem unionShipment_of_ne_nil (h : conf.strings shipKey ++ us ≠ []) :
    unionShipment conf us =
      ⟨(conf.strings shipKey ++ us).eraseDups, (us.filter (· ∉ conf.strings shipKey)).eraseDups,
        conf.insertStrings shipKey (conf.strings shipKey ++ us).eraseDups⟩ :=
  if_neg fun hnil => h (eraseDups_eq_nil_iff.1 hnil)

/-- A second union finds the list of the first. -/
theorem unionShipment_unionShipment (hus : ∀ u ∈ us, Text.IsEntry u)
    (h : conf.strings shipKey ++ us ≠ []) (vs : List String) :
    unionShipment (unionShipment conf us).conf vs =
      ⟨(conf.strings shipKey ++ us ++ vs).eraseDups,
        (vs.filter (· ∉ (conf.strings shipKey ++ us).eraseDups)).eraseDups,
        conf.insertStrings shipKey (conf.strings shipKey ++ us ++ vs).eraseDups⟩ := by
  have hstored := (isUnion_unionShipment conf hus).stored
  rw [unionShipment_of_ne_nil h] at hstored ⊢
  have hne : (conf.insertStrings shipKey (conf.strings shipKey ++ us).eraseDups).strings shipKey ++
      vs ≠ [] := by
    rw [hstored]
    exact fun hnil => h (eraseDups_eq_nil_iff.1 (List.append_eq_nil_iff.1 hnil).1)
  rw [unionShipment_of_ne_nil hne, hstored, eraseDups_eraseDups_append,
    JobConf.insertStrings_insertStrings]

/-- What a second union adds to a first. -/
theorem filter_notMem_append (as us vs : List String) :
    ((us ++ vs).filter (· ∉ as)).eraseDups =
      (us.filter (· ∉ as)).eraseDups ++ (vs.filter (· ∉ (as ++ us).eraseDups)).eraseDups := by
  have hremove : (vs.filter (· ∉ as)).removeAll (us.filter (· ∉ as)) =
      vs.filter (· ∉ (as ++ us).eraseDups) := by
    rw [List.removeAll, List.filter_filter]
    refine List.filter_congr fun v _ => ?_
    by_cases has : v ∈ as <;> by_cases hus : v ∈ us <;> simp [has, hus]
  rw [List.filter_append, List.eraseDups_append, hremove]

theorem unionShipment_append (conf : JobConf) (hus : ∀ u ∈ us, Text.IsEntry u) (vs : List String) :
    let s := unionShipment conf us
    let s' := unionShipment s.conf vs
    unionShipment conf (us ++ vs) = ⟨s'.list, s.added ++ s'.added, s'.conf⟩ := by
  dsimp only
  by_cases hnil : conf.strings shipKey ++ us = []
  · -- nothing was listed, so the first union leaves the configuration as it was
    obtain ⟨hold, rfl⟩ := List.append_eq_nil_iff.1 hnil
    rw [unionShipment_nil hold, List.nil_append, List.nil_append]
  · have hall : conf.strings shipKey ++ (us ++ vs) ≠ [] := by
      rw [← List.append_assoc]
      exact fun h => hnil (List.append_eq_nil_iff.1 h).1
    rw [unionShipment_unionShipment hus hnil, unionShipment_of_ne_nil hnil,
      unionShipment_of_ne_nil hall, filter_notMem_append, List.append_assoc]

/-- URIs that were listed before change nothing. -/
theorem unionShipment_of_subset (conf : JobConf) (hus : ∀ u ∈ us, Text.IsEntry u)
    (hvs : vs ⊆ us) :
    let s := unionShipment conf us
    unionShipment s.conf vs = ⟨s.list, [], s.conf⟩ := by
  dsimp only
  by_cases hnil : conf.strings shipKey ++ us = []
  · obtain ⟨hold, rfl⟩ := List.append_eq_nil_iff.1 hnil
    obtain rfl := List.subset_nil.1 hvs
    rw [unionShipment_nil hold, unionShipment_nil hold]
  · have hsubset : vs ⊆ conf.strings shipKey ++ us := fun v hv =>
      List.mem_append_right _ (hvs hv)
    have hnew : vs.filter (· ∉ (conf.strings shipKey ++ us).eraseDups) = [] := by
      refine List.filter_eq_nil_iff.2 fun v hv => ?_
      rw [decide_eq_true_iff, not_not, List.mem_eraseDups]
      exact hsubset hv
    rw [unionShipment_unionShipment hus hnil, unionShipment_of_ne_nil hnil, hnew,
      eraseDups_append_of_subset hsubset, List.eraseDups_nil]

/-- Two lists with the same entries, each once, that begin with the entries of `before` in their
order. -/
structure Reordered (before list list' : List String) : Prop where
  perm : list.Perm list'
  nodup : list.Nodup
  nodup' : list'.Nodup
  start : before.eraseDups <+: list
  start' : before.eraseDups <+: list'

theorem reordered_of_perm (conf : JobConf) (h : us.Perm vs) :
    Reordered (conf.strings shipKey) (unionShipment conf us).list (unionShipment conf vs).list := by
  have hlist (ws : List String) :
      (unionShipment conf ws).list = (conf.strings shipKey ++ ws).eraseDups := by
    rw [unionShipment]
    split_ifs with hnil
    · exact hnil.symm
    · rfl
  have hstart (ws : List String) :
      (conf.strings shipKey).eraseDups <+: (conf.strings shipKey ++ ws).eraseDups := by
    rw [List.eraseDups_append]
    exact List.prefix_append _ _
  simp only [hlist]
  refine ⟨(List.perm_ext_iff_of_nodup (nodup_eraseDups _) (nodup_eraseDups _)).2 fun e => ?_,
    nodup_eraseDups _, nodup_eraseDups _, hstart us, hstart vs⟩
  rw [List.mem_eraseDups, List.mem_eraseDups, List.mem_append, List.mem_append, h.mem_iff]

/-! ## Shipments in sequence -/

theorem isEntry_of_artifactUri {u : String} (h : artifactUri fs t c = .ok u) : Text.IsEntry u := by
  unfold artifactUri at h
  cases hp : t.artifact? c with
  | none =>
    rw [hp] at h
    cases h
  | some p =>
    rw [hp] at h
    rcases hthere : fs.isThere p with e | _ | _
    · simp only [hthere] at h
      cases h
    · simp only [hthere] at h
      cases h
    · cases hr : fs.resolve p with
      | none =>
        simp only [hthere, hr] at h
        cases h
      | some place =>
        simp only [hthere, hr] at h
        exact Except.ok.inj h ▸ Uri.isEntry_ofPath place

theorem isEntry_of_mapM {cs : List ClassName} (h : cs.mapM (artifactUri fs t) = .ok us) :
    ∀ u ∈ us, Text.IsEntry u := by
  rw [mapM_eq_ok_iff_forall₂] at h
  induction h with
  | nil => exact List.forall_mem_nil _
  | cons hu _ ih => exact List.forall_mem_cons.2 ⟨isEntry_of_artifactUri hu, ih⟩

/-- Shipping makes the union with the URIs of the classes, or fails as the first class that has
none. -/
theorem ship_eq_map (conf : JobConf) (classes : List (Option ClassName)) :
    ship fs t conf classes =
      (classes.reduceOption.mapM (artifactUri fs t)).map (unionShipment conf) := by
  cases h : classes.reduceOption.mapM (artifactUri fs t) with
  | ok uris => exact ship_eq h conf
  | error e =>
    unfold List.reduceOption at h
    unfold ship
    rw [h]
    rfl

/-- Shipping some classes and then others is shipping all of them, also if one of them cannot be
shipped. -/
theorem ship_append (conf : JobConf) (as bs : List (Option ClassName)) :
    ship fs t conf (as ++ bs) = do
      let s ← ship fs t conf as
      let s' ← ship fs t s.conf bs
      return ⟨s'.list, s.added ++ s'.added, s'.conf⟩ := by
  rw [ship_eq_map, ship_eq_map, List.reduceOption_append, List.mapM_append]
  cases has : as.reduceOption.mapM (artifactUri fs t) with
  | error e => rfl
  | ok us =>
    simp only [Except.map, Bind.bind, Except.bind, ship_eq_map]
    cases bs.reduceOption.mapM (artifactUri fs t) with
    | error e => rfl
    | ok vs => exact congrArg Except.ok (unionShipment_append conf (isEntry_of_mapM has) vs)

theorem ship_append_of_ok {as bs : List (Option ClassName)} {s s' : Shipment}
    (h : ship fs t conf as = .ok s) (h' : ship fs t s.conf bs = .ok s') :
    ship fs t conf (as ++ bs) = .ok ⟨s'.list, s.added ++ s'.added, s'.conf⟩ := by
  rw [ship_append, h]
  change (ship fs t s.conf bs >>= _) = _
  rw [h']
  rfl

/-- Every class has an artifact that can be shipped. -/
def Shippable (fs : FileSystem) (t : ModuleTable) (classes : List (Option ClassName)) : Prop :=
  ∀ c, some c ∈ classes → ∃ u, artifactUri fs t c = .ok u

theorem Shippable.exists_uris {classes : List (Option ClassName)} (h : Shippable fs t classes) :
    ∃ us, classes.reduceOption.mapM (artifactUri fs t) = .ok us :=
  exists_mapM_eq_ok fun c hc => h c (List.reduceOption_mem_iff.1 hc)

/-- A class is shippable if something is at the path of its artifact. -/
theorem shippable_of_artifactThere (hfs : fs.Settled fs.workingDirectory)
    {classes : List (Option ClassName)} (h : ∀ c, some c ∈ classes → ArtifactThere fs t c) :
    Shippable fs t classes := by
  intro c hc
  obtain ⟨place, hplace⟩ := (h c hc).exists_resolvesTo hfs
  exact ⟨_, artifactUri_of_resolvesTo hplace⟩

/-- What is true of the shipment `s` of the classes `as` into the configuration `conf`, and of the
shipments of others after it. -/
structure Composes (fs : FileSystem) (t : ModuleTable) (conf : JobConf)
    (as bs : List (Option ClassName)) (s : Shipment) : Prop where
  shipped : ship fs t conf as = .ok s
  /-- To ship `bs` after `as` is to ship both at once : that gives the list and the configuration of
  the last shipment, and what is new in both. -/
  append : ∃ s', ship fs t s.conf bs = .ok s' ∧
    ship fs t conf (as ++ bs) = .ok ⟨s'.list, s.added ++ s'.added, s'.conf⟩
  /-- To ship the same classes again changes nothing. -/
  again : ∃ r, ship fs t s.conf as = .ok r ∧ r.list = s.list ∧ r.conf = s.conf ∧ r.events = []
  /-- In another order the same artifacts are listed. -/
  reordered : ∀ as' : List (Option ClassName), as.Perm as' → ∃ r, ship fs t conf as' = .ok r ∧
    Reordered (conf.strings shipKey) s.list r.list

theorem ship_composes {as bs : List (Option ClassName)} (has : Shippable fs t as)
    (hbs : Shippable fs t bs) (conf : JobConf) : ∃ s, Composes fs t conf as bs s := by
  obtain ⟨us, hus⟩ := has.exists_uris
  obtain ⟨vs, hvs⟩ := hbs.exists_uris
  have hentries := isEntry_of_mapM hus
  have hfirst : ship fs t conf as = .ok (unionShipment conf us) := ship_eq hus conf
  have hsecond := ship_eq hvs (unionShipment conf us).conf
  refine ⟨unionShipment conf us, hfirst, ?_, ?_, fun as' hperm => ?_⟩
  · exact ⟨_, hsecond, ship_append_of_ok hfirst hsecond⟩
  · refine ⟨_, ship_eq hus _, ?_⟩
    rw [unionShipment_of_subset conf hentries (List.Subset.refl us)]
    exact ⟨rfl, rfl, rfl⟩
  · obtain ⟨us', hus', hus_perm⟩ := exists_mapM_eq_ok_of_perm (hperm.filterMap id) hus
    exact ⟨_, ship_eq hus' conf, reordered_of_perm conf hus_perm⟩

theorem ship_composes_awkwardFiles :
    let direct : ClassName := ⟨"tools", "Job"⟩
    let linked : ClassName := ⟨"links", "Job"⟩
    let pkg : ClassName := ⟨"pkg", "Job"⟩
    let t : ModuleTable := [⟨"tools", some "/opt/a, é%", none, none⟩,
      ⟨"links", some "/lib/../lib/a, é%", none, none⟩,
      ⟨"pkg", some "/lib/__init__.py", some ["/lib"], none⟩]
    ∃ s, Composes awkwardFiles t (.ofList [(shipKey, " b ,, b"), ("k", "v")])
      [some direct, none, some linked] [some pkg, some direct, none] s := by
  intro direct linked pkg t
  have hfs := settled_awkwardFiles
  have hdirect : ArtifactThere awkwardFiles t direct :=
    ⟨Path.ofString "/opt/a, é%", by decide, isThere_awkwardFiles _ (by decide)⟩
  have hlinked : ArtifactThere awkwardFiles t linked :=
    ⟨Path.ofString "/lib/../lib/a, é%", by decide, isThere_awkwardFiles _ (by decide)⟩
  have hpkg : ArtifactThere awkwardFiles t pkg :=
    ⟨Path.ofString "/lib", by decide, isThere_awkwardFiles _ (by decide)⟩
  refine ship_composes (shippable_of_artifactThere hfs ?_) (shippable_of_artifactThere hfs ?_) _
  · intro c hc
    have hmem : c = direct ∨ c = linked := by simpa using hc
    rcases hmem with rfl | rfl
    · exact hdirect
    · exact hlinked
  · intro c hc
    have hmem : c = pkg ∨ c = direct := by simpa using hc
    rcases hmem with rfl | rfl
    · exact hpkg
    · exact hdirect

end StorageHandler
