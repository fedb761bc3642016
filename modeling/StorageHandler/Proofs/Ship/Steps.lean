import StorageHandler.Proofs.Ship.Sequence

/-!
# Shipping step by step

Shipping is a program over a job, that is its configuration and its log : it looks for the artifacts
one after the other, and writes the list and logs what is new at the end (`shipping`). If it fails,
what it has done until then stays. `runOn_shipping` says that it does what `ship` says.

A class is missed if it has no artifact, or none that is there. If there are such classes, the first
of them makes shipping fail, and the job is as it was. The failure is the class's own, except where
the system does not look for the artifact, because its path is too long or leads through a directory
that may not be searched (`Barred`, `shipping_failed`, `shipping_overlongFile`).
-/

namespace StorageHandler

/-- The configuration of a job, and what was logged. -/
structure Job where
  conf : JobConf
  log : List Event

/-- A program over a job. If it fails, what it has done until then stays. -/
abbrev JobProgram := ExceptT ShipError (StateM Job)

namespace JobProgram

variable {α β : Type}

/-- What a program comes to, and the job after it. -/
def runOn (p : JobProgram α) (s : Job) : Except ShipError α × Job := p.run.run s

theorem runOn_bind_of_ok {p : JobProgram α} {s s' : Job} {a : α} (h : p.runOn s = (.ok a, s'))
    (f : α → JobProgram β) : (p >>= f).runOn s = (f a).runOn s' :=
  run_run_bind_of_ok h f

theorem runOn_bind_of_error {p : JobProgram α} {s s' : Job} {e : ShipError}
    (h : p.runOn s = (.error e, s')) (f : α → JobProgram β) :
    (p >>= f).runOn s = (.error e, s') :=
  run_run_bind_of_error h f

end JobProgram

section Shipping

variable (fs : FileSystem) (t : ModuleTable)

/-- Puts a URI on the list, and on that of what is new, unless it is listed. -/
def listUri (lists : List String × List String) (uri : String) : List String × List String :=
  if uri ∈ lists.1 then lists else (lists.1 ++ [uri], lists.2 ++ [uri])

/-- Looks for the artifact of a class and lists its URI. -/
def listClass (lists : List String × List String) :
    Option ClassName → JobProgram (List String × List String)
  | none => return lists
  | some c => do
    let uri ← liftExcept (artifactUri fs t c)
    return listUri lists uri

/-- Writes a ship-list that is not empty, and logs what is new in it. -/
def writeLists (lists : List String × List String) : JobProgram (List String) := do
  if lists.1 = [] then return lists.1
  modify fun s => { s with conf := s.conf.insertStrings shipKey lists.1 }
  if lists.2 ≠ [] then modify fun s => { s with log := s.log ++ [.artifactsAdded lists.2] }
  return lists.1

/-- Adds the artifacts of classes to the ship-list of a job. -/
def shipping (classes : List (Option ClassName)) : JobProgram (List String) := do
  let s ← get
  let lists ← classes.foldlM (listClass fs t) (distinct (s.conf.strings shipKey), [])
  writeLists lists

end Shipping

variable {fs : FileSystem} {t : ModuleTable} {classes pre post : List (Option ClassName)}
  {c : ClassName} {e : ShipError}

/-! ## The program does what `ship` says -/

theorem foldl_listUri (as us : List String) :
    us.foldl listUri (as.eraseDups, []) =
      ((as ++ us).eraseDups, (us.filter (· ∉ as)).eraseDups) := by
  induction us using List.reverseRecOn with
  | nil => rw [List.foldl_nil, List.append_nil, List.filter_nil, List.eraseDups_nil]
  | append_singleton us u ih =>
    rw [List.foldl_append, ih, ← List.append_assoc, List.filter_append,
      eraseDups_append_singleton (as ++ us)]
    by_cases has : u ∈ as <;> by_cases hus : u ∈ us <;>
      simp [listUri, has, hus, eraseDups_append_singleton]

/-- The job is not changed while artifacts are looked for. -/
theorem runOn_foldlM_listClass (fs : FileSystem) (t : ModuleTable)
    (classes : List (Option ClassName)) (lists : List String × List String) (s : Job) :
    JobProgram.runOn (classes.foldlM (listClass fs t) lists) s =
      ((classes.reduceOption.mapM (artifactUri fs t)).map (·.foldl listUri lists), s) := by
  induction classes generalizing lists with
  | nil => rfl
  | cons class? classes ih =>
    rw [List.foldlM_cons]
    cases class? with
    | none =>
      have hnone : JobProgram.runOn (listClass fs t lists none) s = (.ok lists, s) := rfl
      rw [JobProgram.runOn_bind_of_ok hnone, ih, List.reduceOption_cons_of_none]
    | some c =>
      rw [List.reduceOption_cons_of_some, List.mapM_cons]
      cases huri : artifactUri fs t c with
      | error e =>
        have hc : JobProgram.runOn (listClass fs t lists (some c)) s = (.error e, s) := by
          rw [listClass, huri]
          rfl
        rw [JobProgram.runOn_bind_of_error hc]
        rfl
      | ok uri =>
        have hc : JobProgram.runOn (listClass fs t lists (some c)) s =
            (.ok (listUri lists uri), s) := by
          rw [listClass, huri]
          rfl
        rw [JobProgram.runOn_bind_of_ok hc, ih]
        cases classes.reduceOption.mapM (artifactUri fs t) <;> rfl

theorem runOn_writeLists (lists : List String × List String) (s : Job) :
    (writeLists lists).runOn s =
      (.ok lists.1,
        if lists.1 = [] then s
        else ⟨s.conf.insertStrings shipKey lists.1,
          s.log ++ if lists.2 = [] then [] else [.artifactsAdded lists.2]⟩) := by
  unfold writeLists
  by_cases hlist : lists.1 = []
  · rw [if_pos hlist, if_pos hlist]
    rfl
  · rw [if_neg hlist, if_neg hlist]
    by_cases hnew : lists.2 = []
    · rw [if_neg (not_not.2 hnew), if_pos hnew, List.append_nil]
      rfl
    · rw [if_pos hnew, if_neg hnew]
      rfl

/-- The program returns the list of the shipment and leaves its configuration and its events. If the
shipment fails, the program fails in the same way and leaves the job as it was. -/
theorem runOn_shipping (classes : List (Option ClassName)) (s : Job) :
    (shipping fs t classes).runOn s =
      match ship fs t s.conf classes with
      | .ok r => (.ok r.list, ⟨r.conf, s.log ++ r.events⟩)
      | .error e => (.error e, s) := by
  have hget : JobProgram.runOn get s = (.ok s, s) := rfl
  have hlook := runOn_foldlM_listClass fs t classes ((s.conf.strings shipKey).eraseDups, []) s
  rw [shipping, JobProgram.runOn_bind_of_ok hget, distinct_eq_eraseDups, ship_eq_map]
  cases huris : classes.reduceOption.mapM (artifactUri fs t) with
  | error e =>
    rw [huris] at hlook
    exact JobProgram.runOn_bind_of_error hlook _
  | ok uris =>
    rw [huris] at hlook
    simp only [Except.map, foldl_listUri] at hlook
    rw [JobProgram.runOn_bind_of_ok hlook, runOn_writeLists]
    by_cases hlist : (s.conf.strings shipKey ++ uris).eraseDups = []
    · simp only [Except.map, unionShipment, hlist, if_true, Shipment.events, List.append_nil]
    · simp only [Except.map, unionShipment, hlist, if_false, Shipment.events]

/-! ## Classes that are missed -/

/-- What shipping says of a class without an artifact, or of one whose artifact is not there. -/
def missedError (t : ModuleTable) (c : ClassName) : ShipError :=
  match t.artifact? c with
  | none => .notFound c
  | some p => .notThere p c

/-- The system does not say whether the artifact of a class is there. -/
inductive Barred (fs : FileSystem) (t : ModuleTable) (c : ClassName) : Prop
  | tooLong {p : Path} (hp : t.artifact? c = some p) (h : fs.find p = .error .nameTooLong) :
    Barred fs t c
  | denied {p : Path} (hp : t.artifact? c = some p) (h : fs.find p = .error .denied) :
    Barred fs t c

/-- A class of a list is missed, and none before it is. -/
structure FirstMissed (fs : FileSystem) (t : ModuleTable) (classes : List (Option ClassName))
    (c : ClassName) : Prop where
  missed : ¬ArtifactThere fs t c
  split : ∃ pre post, classes = pre ++ some c :: post ∧ ∀ c', some c' ∈ pre → ArtifactThere fs t c'

theorem exists_firstMissed (h : ∃ c, some c ∈ classes ∧ ¬ArtifactThere fs t c) :
    ∃ c, FirstMissed fs t classes c := by
  obtain ⟨c, hc, hmissed⟩ := h
  induction classes with
  | nil => exact absurd hc List.not_mem_nil
  | cons class? classes ih =>
    -- either the head is missed, or the first one of the tail is the first one
    by_cases hhead : ∃ c', class? = some c' ∧ ¬ArtifactThere fs t c'
    · obtain ⟨c', rfl, hmissed'⟩ := hhead
      exact ⟨c', hmissed', [], classes, rfl, fun _ h => absurd h List.not_mem_nil⟩
    · have hthere : ∀ c', some c' = class? → ArtifactThere fs t c' := fun c' hc' =>
        of_not_not fun hmissed' => hhead ⟨c', hc'.symm, hmissed'⟩
      have htail : some c ∈ classes :=
        (List.mem_cons.1 hc).resolve_left fun hc => hmissed (hthere c hc)
      obtain ⟨c', hmissed', pre, post, rfl, hpre⟩ := ih htail
      refine ⟨c', hmissed', class? :: pre, post, rfl, fun c'' hc'' => ?_⟩
      exact (List.mem_cons.1 hc'').elim (hthere c'') (hpre c'')

theorem isThere_eq_true_iff {p : Path} : fs.isThere p = .ok true ↔ ∃ r, fs.find p = .ok r := by
  refine ⟨FileSystem.exists_find_of_isThere, fun ⟨r, hr⟩ => ?_⟩
  rw [FileSystem.isThere, hr]

theorem barred_iff : Barred fs t c ↔ ∃ p error, t.artifact? c = some p ∧
    fs.find p = .error error ∧ error.isAbsence = false := by
  constructor
  · intro h
    cases h with
    | tooLong hp h => exact ⟨_, _, hp, h, rfl⟩
    | denied hp h => exact ⟨_, _, hp, h, rfl⟩
  · rintro ⟨p, error, hp, h, habsence⟩
    cases error with
    | nameTooLong => exact .tooLong hp h
    | denied => exact .denied hp h
    | _ => cases habsence

theorem barred_iff_of_find {p : Path} {error : FileError} (hp : t.artifact? c = some p)
    (h : fs.find p = .error error) : Barred fs t c ↔ error.isAbsence = false := by
  rw [barred_iff]
  constructor
  · rintro ⟨p', error', hp', h', habsence⟩
    obtain rfl := Option.some.inj (hp.symm.trans hp')
    obtain rfl := Except.error.inj (h.symm.trans h')
    exact habsence
  · exact fun habsence => ⟨p, error, hp, h, habsence⟩

/-- A class that is missed has no URI. -/
theorem artifactUri_of_missed (h : ¬ArtifactThere fs t c) :
    ∃ e, artifactUri fs t c = .error e ∧ (e = missedError t c ↔ ¬Barred fs t c) ∧
      (e.kind = .unresolvedArtifact ↔ ¬Barred fs t c) := by
  unfold artifactUri missedError
  cases hp : t.artifact? c with
  | none =>
    have hfree : ¬Barred fs t c := by
      rw [barred_iff, hp]
      rintro ⟨p, error, ⟨⟩, -⟩
    exact ⟨.notFound c, rfl, iff_of_true rfl hfree, iff_of_true rfl hfree⟩
  | some p =>
    cases hfind : fs.find p with
    | ok r => exact absurd ⟨p, hp, isThere_eq_true_iff.2 ⟨r, hfind⟩⟩ h
    | error error =>
      rw [barred_iff_of_find hp hfind]
      simp only [FileSystem.isThere, hfind]
      cases habsence : error.isAbsence with
      | true =>
        have hfree : ¬true = false := by decide
        exact ⟨.notThere p c, rfl, iff_of_true rfl hfree, iff_of_true rfl hfree⟩
      | false =>
        have hown : ShipError.inaccessible error p ≠ .notThere p c := by simp
        have hkind : error.kind ≠ .unresolvedArtifact := by cases error <;> decide
        exact ⟨.inaccessible error p, rfl, iff_of_false hown (not_not.2 rfl),
          iff_of_false hkind (not_not.2 rfl)⟩

/-- Shipping fails as the first class that is missed, whatever classes stand around it. -/
theorem FirstMissed.ship_eq_error (h : FirstMissed fs t classes c)
    (hfs : fs.Settled fs.workingDirectory) (he : artifactUri fs t c = .error e) (conf : JobConf) :
    ship fs t conf classes = .error e := by
  obtain ⟨-, pre, post, rfl, hpre⟩ := h
  have hshippable := shippable_of_artifactThere hfs hpre
  have hfirst : (pre ++ some c :: post).reduceOption.mapM (artifactUri fs t) = .error e := by
    rw [List.reduceOption_append, List.reduceOption_cons_of_some, mapM_eq_error_iff]
    exact ⟨_, c, _, rfl, fun c' hc' => hshippable c' (List.reduceOption_mem_iff.1 hc'), he⟩
  rw [ship_eq_map, hfirst]
  rfl

/-- If a class is missed, shipping fails as the first that is, and the job is as it was. The failure
is the class's own exactly if its artifact is not barred. -/
theorem shipping_failed (hfs : fs.Settled fs.workingDirectory)
    (h : ∃ c, some c ∈ classes ∧ ¬ArtifactThere fs t c) (s : Job) :
    (∃ c, FirstMissed fs t classes c) ∧
    ∀ c, FirstMissed fs t classes c → ∃ e, (shipping fs t classes).runOn s = (.error e, s) ∧
      (e = missedError t c ↔ ¬Barred fs t c) ∧
      (e.kind = .unresolvedArtifact ↔ ¬Barred fs t c) := by
  refine ⟨exists_firstMissed h, fun c hc => ?_⟩
  obtain ⟨e, he, hown, hkind⟩ := artifactUri_of_missed hc.missed
  refine ⟨e, ?_, hown, hkind⟩
  rw [runOn_shipping, hc.ship_eq_error hfs he]

theorem shipping_failed_awkwardFiles :
    let direct : ClassName := ⟨"tools", "Job"⟩
    let gone : ClassName := ⟨"gone", "Job"⟩
    let lost : ClassName := ⟨"lost", "Job"⟩
    let t : ModuleTable := [⟨"tools", some "/opt/a, é%", none, none⟩,
      ⟨"gone", some "/opt/none", none, none⟩]
    let s : Job := ⟨.ofList [(shipKey, " b ,, b"), ("k", "v")], [.clientCreated "h:1"]⟩
    (shipping awkwardFiles t [none, some direct, some gone, some direct, some lost]).runOn s =
      (.error (.notThere (.ofString "/opt/none") gone), s) := by
  intro direct gone lost t s
  have hdirect : ArtifactThere awkwardFiles t direct :=
    ⟨Path.ofString "/opt/a, é%", by decide, isThere_awkwardFiles _ (by decide)⟩
  have hartifact : t.artifact? gone = some (.ofString "/opt/none") := by decide
  have hfind : awkwardFiles.find (.ofString "/opt/none") = .error .notFound :=
    (FileSystem.find_eq_walk (by decide) (by decide)).trans <|
      (walk_opt _ _).trans <| FileSystem.walk_absent rfl (by decide) (by decide) rfl
  have hmissed : ¬ArtifactThere awkwardFiles t gone := by
    rintro ⟨p, hp, hthere⟩
    obtain rfl := Option.some.inj (hartifact.symm.trans hp)
    obtain ⟨r, hr⟩ := isThere_eq_true_iff.1 hthere
    rw [hfind] at hr
    cases hr
  have hfree : ¬Barred awkwardFiles t gone := by
    rw [barred_iff_of_find hartifact hfind]
    decide
  have hfirst : FirstMissed awkwardFiles t
      [none, some direct, some gone, some direct, some lost] gone := by
    refine ⟨hmissed, [none, some direct], [some direct, some lost], rfl, fun c hc => ?_⟩
    obtain rfl : c = direct := by simpa using hc
    exact hdirect
  have hmem : some gone ∈ [none, some direct, some gone, some direct, some lost] := by decide
  obtain ⟨e, hrun, hown, -⟩ :=
    (shipping_failed settled_awkwardFiles ⟨gone, hmem, hmissed⟩ s).2 gone hfirst
  rw [hrun, hown.2 hfree, missedError, hartifact]

/-! ## Names that are too long -/

theorem Path.ofString_of_isName {name : String} (hname : FileSystem.IsName name)
    (hslash : '/' ∉ name.toList) : Path.ofString ("/" ++ name) = ⟨"/", [name]⟩ := by
  have hchars : ("/" ++ name).toList = '/' :: name.toList := by simp
  have hroot : Path.rootOf ('/' :: name.toList) = "/" := by
    cases hcs : name.toList with
    | nil => rfl
    | cons c cs =>
      have hc : c ≠ '/' := by
        rintro rfl
        rw [hcs] at hslash
        exact hslash List.mem_cons_self
      unfold Path.rootOf
      split <;> simp_all
  have hsplit : Text.split '/' ("/" ++ name) = ["", name] := by
    rw [Text.split, hchars, Text.splitList, if_pos rfl, Text.splitList_of_not_mem hslash,
      List.map_cons, List.map_singleton, String.ofList_toList]
  rw [Path.ofString, hchars, hroot, hsplit]
  simp [hname.1, hname.2.1]

/-- A name with more bytes than a name can have is refused, whatever files there are. -/
theorem FileSystem.find_overlong (fs : FileSystem) {name : String} (hname : IsName name)
    (hnul : Char.ofNat 0 ∉ name.toList) (hlong : maxName < (Text.encode name).length) :
    fs.find ⟨"/", [name]⟩ = .error .nameTooLong := by
  have htext : (Path.text ⟨"/", [name]⟩).contains (Char.ofNat 0) = false := by
    have hchars : (Path.text ⟨"/", [name]⟩).toList = '/' :: name.toList := by
      simp [Path.text, Text.join]
    rw [String.contains_char_eq, hchars, decide_eq_false_iff_not, List.mem_cons, not_or]
    exact ⟨by decide, hnul⟩
  have hwalk : fs.walk true maxLinks [] [name] = .error .nameTooLong :=
    walk_tooLong (if_pos rfl) hname hlong
  rw [find, htext, if_neg Bool.false_ne_true]
  split_ifs
  · rfl
  · exact hwalk

/-- A name of 256 bytes. -/
def overlongName : String := String.ofList (List.replicate 256 'a')

/-- A module whose file has a name that no file can have. -/
def overlongFile : ModuleTable := [⟨"long", some ("/" ++ overlongName), none, none⟩]

/-- The artifact of the class is not there, but what the system says of its path leaves as it is. -/
theorem shipping_overlongFile :
    let c : ClassName := ⟨"long", "Job"⟩
    let s : Job := ⟨.ofList [(shipKey, " b ,, b"), ("k", "v")], []⟩
    ¬ArtifactThere awkwardFiles overlongFile c ∧
      ∃ e, (shipping awkwardFiles overlongFile [some c]).runOn s = (.error e, s) ∧
        e.kind = .system ∧ e ≠ missedError overlongFile c := by
  intro c s
  have hname : FileSystem.IsName overlongName := by
    refine ⟨?_, ?_, ?_⟩ <;> decide +kernel
  have htoList : overlongName.toList = List.replicate 256 'a' := String.toList_ofList
  have hchars : ∀ x, x ≠ 'a' → x ∉ overlongName.toList := fun x hx hmem =>
    hx (List.eq_of_mem_replicate (htoList ▸ hmem))
  have hartifact : overlongFile.artifact? c = some ⟨"/", [overlongName]⟩ := by
    rw [← Path.ofString_of_isName hname (hchars _ (by decide))]
    simp [ModuleTable.artifact?, overlongFile, c, ModuleTable.get?, ModuleTable.topLevel, Text.cut,
      Text.cutList, LoadedModule.file?, Option.filter]
  have hbytes : (Text.encode overlongName).length = 256 := by decide +kernel
  have hlong : FileSystem.maxName < (Text.encode overlongName).length := by
    rw [hbytes]
    decide
  have hfind : awkwardFiles.find ⟨"/", [overlongName]⟩ = .error .nameTooLong :=
    awkwardFiles.find_overlong hname (hchars _ (by decide)) hlong
  have huri : artifactUri awkwardFiles overlongFile c =
      .error (.inaccessible .nameTooLong ⟨"/", [overlongName]⟩) := by
    simp only [artifactUri, hartifact, FileSystem.isThere, hfind]
    rfl
  refine ⟨?_, .inaccessible .nameTooLong ⟨"/", [overlongName]⟩, ?_, rfl, ?_⟩
  · rintro ⟨p, hp, hthere⟩
    obtain rfl := Option.some.inj (hartifact.symm.trans hp)
    obtain ⟨r, hr⟩ := isThere_eq_true_iff.1 hthere
    rw [hfind] at hr
    cases hr
  · rw [runOn_shipping, ship_eq_map, List.reduceOption_cons_of_some, List.mapM_cons, huri]
    rfl
  · simp [missedError, hartifact]

end StorageHandler
